import EmsDnp3.Native.CommandTask
import EmsDnp3.Python.CommandResult
import EmsDnp3.System.CaptureAgreement
import EmsDnp3.System.RequestAgreement

/-!
# The client accepts every command result

A call of the host that succeeds has counted its points; the client counts them again and looks for the command behind
each. In every run of a task the two agree on the batch that the client sent.
-/

namespace EmsDnp3

open Native (CommandCall CommandAction CommandLog CommandTally NumberFormat Platform pointKey requestKey)
open Python (CommandRequest field requireFields naturalField nameField booleanField objectField arrayField parseObjects)

/-- `++next_task_id`, which starts again behind the largest `int`. -/
def Native.nextTaskId (previous : Nat) : Nat := if previous = 2 ^ 31 - 1 then 1 else previous + 1

theorem Native.nextTaskId_pos (previous : Nat) : 0 < nextTaskId previous := by
  unfold nextTaskId
  split <;> omega

namespace CommandAgreement

/-! ## Fields -/

theorem isObj_object (members : List (String × Json)) : (Json.object members).isObj = true := rfl

section
variable {key message : String}

/-- The client reads a number where the host has put one. -/
theorem naturalField_ok {value : Json} {n : Nat} (here : field value key = .nat n) :
    naturalField value key message = .ok n := by
  unfold naturalField
  rw [here, Python.natural?_eq_some.mpr rfl]

theorem nameField_ok {value : Json} {s : Text} (here : field value key = .str s) (some_ : s ≠ []) :
    nameField value key message = .ok s := by
  unfold nameField
  rw [here]
  exact if_neg some_

theorem booleanField_ok {value : Json} {b : Bool} (here : field value key = .bool b) :
    booleanField value key message = .ok b := by
  unfold booleanField
  rw [here]

/-- The client reads an object. -/
theorem objectField_ok {value : Json} (here : (field value key).isObj = true) :
    objectField value key message = .ok (field value key) := by
  unfold objectField
  cases found : field value key with
  | obj inner => rfl
  | null | bool | int | float | str | arr =>
    rw [found] at here
    cases here

theorem arrayField_ok {value : Json} {l : List Json} (here : field value key = .arr l) :
    arrayField value key message = .ok l := by
  unfold arrayField
  rw [here]

theorem requireFields_ok {value : Json} {required : List String} {what : String}
    (present : ∀ key ∈ required, (value.get? (text key)).isNone = false) : requireFields value required what = .ok () := by
  apply rejectIf_pass
  rw [List.filter_eq_nil_iff.mpr fun key member => by simp [present key member], List.mergeSort_nil]
  simp

end

/-- Every object is parsed, and nothing else is there. -/
theorem parseObjects_ok {α β : Type} {parse : Json → Except Python.PyError α} {encode : β → Json} {decode : β → α}
    {message : String} (xs : List β) (objects : ∀ x ∈ xs, (encode x).isObj = true)
    (parses : ∀ x ∈ xs, parse (encode x) = .ok (decode x)) :
    parseObjects parse (xs.map encode) message = .ok (xs.map decode) := by
  have all : (xs.map encode).filter Json.isObj = xs.map encode := by
    apply List.filter_eq_self.mpr
    simpa using objects
  have each : (xs.map encode).mapM parse = .ok (xs.map decode) := by
    clear objects all
    induction xs with
    | nil => rfl
    | cons x rest ih =>
      rw [List.map_cons, List.mapM_cons, parses x List.mem_cons_self, ih fun y member => parses y (List.mem_cons_of_mem _ member)]
      rfl
  unfold parseObjects
  rw [all, each]
  refine ok_bind_iff.mpr ⟨_, rfl, ok_bind_iff.mpr ⟨(), rejectIf_pass (by simp), rfl⟩⟩

/-! ## Points -/

theorem statusName_eq (status : Native.CommandStatus) :
    Python.commandStatusName2012 status.raw = Native.commandStatusName2012 status.raw := by
  cases status <;> decide

theorem status_le (status : Native.CommandStatus) : status.raw ≤ 127 := by
  cases status <;> decide

theorem status_named (status : Native.CommandStatus) :
    text (Native.commandStatusName2012 status.raw) ≠ [] ∧ text status.name ≠ [] := by
  cases status <;> decide

theorem state_named (state : Native.CommandPointState) : text state.name ≠ [] := by
  cases state <;> decide

theorem statusOk (status : Native.CommandStatus) :
    status.raw ≤ 127 ∧ text (Native.commandStatusName2012 status.raw) = text (Python.commandStatusName2012 status.raw) :=
  ⟨status_le status, by rw [statusName_eq]⟩

/-- A point of the stack as the client has it. -/
def clientPoint (metadata : Native.CommandMetadata) (point : Native.CommandPointResult) : Python.CommandPointResult where
  headerIndex := point.headerIndex
  index := point.index.val
  state := text point.state.name
  stateRaw := point.state.raw
  status := text (Native.commandStatusName2012 point.status.raw)
  statusRaw := point.status.raw
  requested := metadata.find point.key
  raw := Native.commandPointJson metadata point
  statusOk := statusOk point.status

/-- A point of the reply is read as the client's point. -/
theorem point_ok {metadata : Native.CommandMetadata} {point : Native.CommandPointResult} {requested : List (Text × Json)}
    (found : metadata.find point.key = some (.obj requested)) :
    Python.CommandPointResult.fromMapping (Native.commandPointJson metadata point) = .ok (clientPoint metadata point) := by
  have named := status_named point.status
  unfold Python.CommandPointResult.fromMapping
  refine ok_bind_iff.mpr ⟨(), requireFields_ok ?_, ?_⟩
  · simp [Python.CommandPointResult.requiredFields, Native.commandPointJson]
  refine ok_bind_iff.mpr ⟨point.headerIndex, naturalField_ok (by simp [Native.commandPointJson]), ?_⟩
  refine ok_bind_iff.mpr ⟨point.index.val, naturalField_ok (by simp [Native.commandPointJson]), ?_⟩
  refine ok_bind_iff.mpr ⟨point.state.raw, naturalField_ok (by simp [Native.commandPointJson]), ?_⟩
  refine ok_bind_iff.mpr ⟨point.status.raw, naturalField_ok (by simp [Native.commandPointJson]), ?_⟩
  refine ok_bind_iff.mpr ⟨_, nameField_ok (by simp [Native.commandPointJson]) (state_named point.state), ?_⟩
  refine ok_bind_iff.mpr ⟨_, nameField_ok (by simp [Native.commandPointJson]) named.1, ?_⟩
  refine ok_bind_iff.mpr ⟨⟨status_le point.status⟩, Python.require_ok_iff.mpr (status_le point.status), ?_⟩
  refine ok_bind_iff.mpr ⟨⟨(statusOk point.status).2⟩, Python.require_ok_iff.mpr (statusOk point.status).2, ?_⟩
  refine ok_bind_iff.mpr ⟨(), rejectIf_pass (by simp [Native.commandPointJson, Native.kTargetProtocolEdition]), ?_⟩
  refine ok_bind_iff.mpr ⟨_, nameField_ok (by simp [Native.commandPointJson]) named.2, ?_⟩
  refine ok_bind_iff.mpr ⟨(), rejectIf_pass (by simp [Native.commandPointJson, Native.commandStatusIsReserved2012]), ?_⟩
  refine ok_bind_iff.mpr ⟨(), rejectIf_pass (by simp [Native.commandPointJson, Native.commandStatusWireRawUnambiguous]), ?_⟩
  refine ok_bind_iff.mpr ⟨metadata.find point.key, ?_, rfl⟩
  simp [Python.CommandPointResult.requestedOf, Native.commandPointJson, found]

/-- Both sides call the same points successful. -/
theorem point_succeeded (metadata : Native.CommandMetadata) (point : Native.CommandPointResult) :
    (clientPoint metadata point).succeeded = point.succeeded := by
  have state : (text point.state.name = text "SUCCESS") ↔ point.state = .success := by
    cases point.state <;> decide
  have status : point.status.raw = 0 ↔ point.status = .success := by
    cases point.status <;> decide
  simp only [Python.CommandPointResult.succeeded, clientPoint, Native.CommandPointResult.succeeded, state, status,
    Bool.decide_and]

/-- Both sides ask for a readback of the same points. -/
theorem point_readback {metadata : Native.CommandMetadata} {point : Native.CommandPointResult}
    {requested : List (Text × Json)} (found : metadata.find point.key = some (.obj requested)) :
    (clientPoint metadata point).requiresManualReadback = true ↔
      Native.commandStatusRequiresManualReadback2012 point.status.raw = true := by
  rw [Python.CommandPointResult.requiresManualReadback_iff (point_ok found)]
  have bound := status_le point.status
  simp [clientPoint, Native.commandStatusRequiresManualReadback2012, Native.commandStatusIsReserved2012,
    Native.commandStatusWireRawUnambiguous]
  omega

/-! ## The task -/

section Task

variable {platform : Platform} {now : Nat} {op : Native.CommandOperation} {completion : Native.TaskCompletion}
  {uncertain : Bool} {points : List Native.CommandPointResult}

/-- What a call that succeeds has in its counters. -/
structure Complete (op : Native.CommandOperation) (points : List Native.CommandPointResult) : Prop where
  positive : 0 < op.taskId
  named : text op.mode ≠ []
  serialized : op.pointResults = points.map (Native.commandPointJson op.metadata)
  requested : ∀ p ∈ points, ∃ requested, op.metadata.find p.key = some (.obj requested)
  distinct : (points.map (·.key)).Nodup
  success : op.successCount = points.countP (·.succeeded)
  returned : op.pointResults.length = op.expectedPoints
  errors : op.correlationErrorCount = 0
  cancelled : op.cancelled = false

/-- No point is answered twice. -/
theorem Complete.keys (complete : Complete op points) :
    ((points.map (clientPoint op.metadata)).map (·.key)).Nodup := by
  have distinct := complete.distinct
  rw [List.map_map]
  refine List.Nodup.of_map (fun key : Nat × Nat => key.1 * 65536 + key.2) ?_
  rw [List.map_map]
  have same : (fun p : Native.CommandPointResult => p.key) =
      (fun key : Nat × Nat => key.1 * 65536 + key.2) ∘ (fun p => p.key) ∘ clientPoint op.metadata := by
    funext p
    exact Native.pointKey_eq p.headerIndex p.index
  rwa [← same]

theorem Complete.length (complete : Complete op points) : points.length = op.expectedPoints := by
  rw [← complete.returned, complete.serialized, List.length_map]

theorem Complete.countP (complete : Complete op points) :
    (points.map (clientPoint op.metadata)).countP (·.succeeded) = op.successCount := by
  rw [List.countP_map, complete.success]
  congr 1
  funext p
  exact point_succeeded op.metadata p

/-- The result that the client has, once it is accepted. -/
def clientResult (complete : Complete op points) (platform : Platform) (now : Nat) (completion : Native.TaskCompletion)
    (uncertain : Bool) : Python.CommandTaskResult where
  taskId := op.taskId
  mode := text op.mode
  taskStatus := text completion.name
  taskStarted := op.started
  taskDestroyed := op.destroyed
  allSuccess := op.allSuccess completion
  executionUncertain := uncertain
  pointResults := points.map (clientPoint op.metadata)
  summary := field (op.resultJson platform now completion uncertain) "summary"
  timings := field (op.resultJson platform now completion uncertain) "timings"
  raw := op.resultJson platform now completion uncertain
  positive := complete.positive
  distinct := complete.keys

/-- What the client expects of `all_success`. -/
def expected (op : Native.CommandOperation) (completion : Native.TaskCompletion) : Bool :=
  completion = .success && op.started && op.successCount = op.expectedPoints

theorem completion_named (completion : Native.TaskCompletion) :
    text completion.name ≠ [] ∧ (text completion.name = text "SUCCESS" ↔ completion = .success) := by
  cases completion <;> decide

/-- The reply is read, and refused exactly if `all_success` says what its points do not. -/
theorem result_fields (complete : Complete op points) :
    Python.CommandTaskResult.fromMapping (op.resultJson platform now completion uncertain) =
      if op.allSuccess completion = expected op completion then .ok (clientResult complete platform now completion uncertain)
      else .error (.value "command all_success is inconsistent with task/point results") := by
  have requested := complete.requested
  have length := complete.length
  have count := complete.countP
  have named := completion_named completion
  have returned : op.pointResults.length = points.length := complete.returned.trans length.symm
  have bounded : op.successCount ≤ points.length := complete.success ▸ List.countP_le_length
  have parsed : parseObjects Python.CommandPointResult.fromMapping op.pointResults
      "command result contains a non-object point result" = .ok (points.map (clientPoint op.metadata)) := by
    rw [complete.serialized]
    refine parseObjects_ok points (fun p _ => rfl) fun p member => ?_
    obtain ⟨_, found⟩ := requested p member
    exact point_ok found
  have started : (decide (text completion.name = text "SUCCESS") && op.started && decide (op.expectedPoints = points.length) &&
      decide (op.successCount = points.length)) = expected op completion := by
    simp [expected, named.2, length]
  unfold Python.CommandTaskResult.fromMapping Python.CommandTaskResult.summaryCount
  rw [requireFields_ok (by simp [Python.CommandTaskResult.requiredFields, Native.CommandOperation.resultJson]), ok_bind,
    naturalField_ok (n := op.taskId) (by simp [Native.CommandOperation.resultJson]), ok_bind]
  rw [show Python.require (0 < op.taskId) (Python.PyError.value "command task_id must be a positive integer") = .ok ⟨complete.positive⟩
    from Python.require_ok_iff.mpr complete.positive, ok_bind]
  dsimp only
  rw [nameField_ok (s := text op.mode) (by simp [Native.CommandOperation.resultJson]) complete.named, ok_bind,
    nameField_ok (s := text completion.name) (by simp [Native.CommandOperation.resultJson]) named.1, ok_bind,
    rejectIf_pass (by simp [Native.CommandOperation.resultJson]), ok_bind,
    booleanField_ok (b := op.started) (by simp [Native.CommandOperation.resultJson]), ok_bind,
    booleanField_ok (b := op.destroyed) (by simp [Native.CommandOperation.resultJson]), ok_bind,
    booleanField_ok (b := op.allSuccess completion) (by simp [Native.CommandOperation.resultJson]), ok_bind,
    booleanField_ok (b := uncertain) (by simp [Native.CommandOperation.resultJson]), ok_bind,
    arrayField_ok (l := op.pointResults) (by simp [Native.CommandOperation.resultJson]), ok_bind,
    objectField_ok (by simp [Native.CommandOperation.resultJson, isObj_object]), ok_bind,
    objectField_ok (by simp [Native.CommandOperation.resultJson, isObj_object]), ok_bind, parsed, ok_bind,
    naturalField_ok (n := op.expectedPoints) (by simp [Native.CommandOperation.resultJson]), ok_bind,
    naturalField_ok (n := points.length) (by simp [Native.CommandOperation.resultJson, returned]), ok_bind,
    naturalField_ok (n := op.successCount) (by simp [Native.CommandOperation.resultJson]), ok_bind,
    naturalField_ok (n := points.length - op.successCount) (by simp [Native.CommandOperation.resultJson, returned]), ok_bind,
    rejectIf_pass (by simp), ok_bind, rejectIf_pass (by simp; omega), ok_bind, rejectIf_pass (by simpa using count), ok_bind,
    count, List.length_map, started]
  by_cases same : op.allSuccess completion = expected op completion
  · rw [if_pos same, rejectIf_pass (by simpa using same), ok_bind,
      show Python.require _ (Python.PyError.value "command result repeats a header/index point result") = .ok ⟨complete.keys⟩
        from Python.require_ok_iff.mpr complete.keys]
    rfl
  · rw [if_neg same]
    simp [rejectIf, same]
    rfl

end Task

/-! ## A call -/

section Call

variable {platform : Platform} {format : NumberFormat} {r : CommandRequest} {previous submitted now : Nat}
  {selectBeforeOperate : Bool} {trace : List CommandAction} {y y' : CommandCall} {result : Json}

/-- The name of the operation. -/
def operationName (selectBeforeOperate : Bool) : String :=
  if selectBeforeOperate then "select_and_operate" else "direct_operate"

/-- The call that the host makes of a request. -/
def startCall (format : NumberFormat) (r : CommandRequest) (previous : Nat) (selectBeforeOperate : Bool) (submitted : Nat) :
    CommandCall :=
  CommandCall.start format r.native (Native.nextTaskId previous) selectBeforeOperate submitted

/-- What is known of a call that succeeds. -/
structure Succeeds (r : CommandRequest) (format : NumberFormat) (l : CommandLog) (op : Native.CommandOperation)
    (points : List Native.CommandPointResult) : Prop where
  ending : l.ending = some ⟨.success, points, false⟩
  perm : (points.map (·.key)).Perm (r.native.commands.map (requestKey r.native.commands))
  complete : Complete op points
  metadata : op.metadata = (Native.buildCommandSet format r.native).metadata
  started : op.started = l.started
  readback : op.manualReadbackCount =
    points.countP fun p => Native.commandStatusRequiresManualReadback2012 p.status.raw

theorem correlates (format : NumberFormat) (r : CommandRequest) :
    Native.Correlates format r.native.commands (Native.buildCommandSet format r.native) :=
  Native.buildCommandSet_correlates format (Native.parseCommandConfig_valid (CommandRequest.parseCommandConfig_ok r))

/-- The entry of a returned key is the request of a command. -/
theorem find_requested {metadata : Native.CommandMetadata} (same : metadata = (Native.buildCommandSet format r.native).metadata)
    {ordinal : Nat} {point : Native.CommandPointResult}
    (here : (r.native.commands.map (requestKey r.native.commands))[ordinal]? = some point.key) :
    ∃ command, r.commands[ordinal]? = some command ∧ point.index = command.native.index ∧
      metadata.find point.key = some (Native.requestedPointJson format command.native ordinal) := by
  rw [List.getElem?_map] at here
  obtain ⟨sent, there, key⟩ := Option.map_eq_some_iff.mp here
  have from_ : r.native.commands[ordinal]? = (r.commands[ordinal]?).map (·.native) := List.getElem?_map
  rw [there] at from_
  obtain ⟨command, found, rfl⟩ := Option.map_eq_some_iff.mp from_.symm
  refine ⟨command, found, ?_, ?_⟩
  · exact ((Native.pointKey_inj.mp key).2).symm
  · rw [same, ← key]
    exact (correlates format r).requested ordinal command.native there

/-- A reply that is no error is of a task that succeeded, with every point answered. -/
theorem succeeds_of_ok (run : (startCall format r previous selectBeforeOperate submitted).runs platform trace = some y)
    (ok : y.op.outcome platform now = .ok result) :
    ∃ points, Succeeds r format (CommandLog.of trace) y.op points ∧
      result = y.op.resultJson platform now .success (y.op.executionUncertain .success) := by
  have told := CommandCall.told_runs CommandCall.told_start run
  cases ended : (CommandLog.of trace).ending with
  | none =>
    have running : y.op.done = false := by
      rw [told.done, ended]
      rfl
    have undone : Native.Uncertain (y.op.outcome platform now) := (Native.CommandOperation.outcome_running running).1
    obtain ⟨e, failed, -⟩ := undone
    rw [failed] at ok
    cases ok
  | some ending =>
    have counted := told.counted ended (correlates format r) rfl rfl
    rcases @Native.CommandOperation.outcome_done platform now y.op _ counted.done counted.completion with
      ⟨-, e, failed, -⟩ | ⟨-, -, e, failed, -⟩ | ⟨succeeded, length, errors, reply⟩
    · rw [failed] at ok
      cases ok
    · rw [failed] at ok
      cases ok
    · have perm := counted.perm_iff.mp ⟨length, errors⟩
      simp only [Native.CommandOperation.taskFailed, Bool.or_eq_false_iff, decide_eq_false_iff_not, not_not] at succeeded
      obtain ⟨completion, cancelled⟩ := succeeded
      obtain ⟨_, points, c⟩ := ending
      obtain rfl : _ = Native.TaskCompletion.success := completion
      obtain rfl : c = false := counted.cancelled.symm.trans cancelled
      have of := CommandTally.of_all (startCall format r previous selectBeforeOperate submitted).op.metadata points
      have tally := told.tally
      have reported : (CommandLog.of trace).points = points := by simp [CommandLog.points, ended]
      rw [reported] at tally
      simp only [Native.CommandOperation.tally, Native.CommandTally.counts, Prod.mk.injEq] at tally
      obtain ⟨results, successes, readback, -, -, -⟩ := tally
      have metadata := told.fixed.2.2.1
      have mode : y.op.mode = operationName selectBeforeOperate := told.fixed.2.1
      refine ⟨points, ⟨ended, perm, ⟨?_, ?_, ?_, ?_, ?_, ?_, length, errors, cancelled⟩, metadata, told.started, ?_⟩, ?_⟩
      · rw [told.fixed.1]
        exact Native.nextTaskId_pos previous
      · rw [mode]
        cases selectBeforeOperate <;> decide
      · rw [results, metadata]
        exact of.serialized
      · intro p member
        obtain ⟨ordinal, here⟩ := List.mem_iff_getElem?.mp (perm.mem_iff.mp (List.mem_map_of_mem member))
        obtain ⟨command, -, -, found⟩ := find_requested metadata here
        exact ⟨_, found⟩
      · exact perm.nodup_iff.mpr (correlates format r).distinct
      · exact successes.trans of.success
      · exact readback.trans of.readback
      · exact Except.ok.inj (ok.symm.trans reply)

theorem Succeeds.allSuccess_iff {op : Native.CommandOperation} {l : CommandLog} {points : List Native.CommandPointResult}
    (succeeds : Succeeds r format l op points) :
    op.allSuccess .success = true ↔ ∀ p ∈ points, p.state = .success ∧ p.status = .success := by
  have complete := succeeds.complete
  have count : op.successCount = op.expectedPoints ↔ points.countP (·.succeeded) = points.length := by
    rw [complete.success, complete.length]
  rw [Native.CommandOperation.allSuccess_iff, count, List.countP_eq_length]
  simp [complete.cancelled, complete.returned, complete.errors, Native.CommandPointResult.succeeded]

/-- A readback is needed exactly for the points that ask for one. -/
theorem Succeeds.executionUncertain_iff {op : Native.CommandOperation} {l : CommandLog}
    {points : List Native.CommandPointResult} (succeeds : Succeeds r format l op points) :
    op.executionUncertain .success = true ↔
      ∃ p ∈ points.map (clientPoint op.metadata), p.requiresManualReadback = true := by
  have complete := succeeds.complete
  have counted : op.executionUncertain .success = true ↔ 0 < op.manualReadbackCount := by
    simp [Native.CommandOperation.executionUncertain, Native.CommandOperation.taskFailed, complete.cancelled, complete.errors]
  rw [counted, succeeds.readback, List.countP_pos_iff]
  simp only [List.mem_map, exists_exists_and_eq_and]
  apply exists_congr
  intro p
  apply and_congr_right
  intro member
  obtain ⟨_, found⟩ := complete.requested p member
  exact (point_readback found).symm

/-- The positions of the members of a list without repetition. -/
theorem map_idxOf_self {keys : List Nat} (nodup : keys.Nodup) : keys.map keys.idxOf = List.range keys.length := by
  apply List.ext_getElem
  · simp
  · intro i inside _
    simp [List.Nodup.idxOf_getElem nodup]

/-- A point answers the command it was noted for. -/
theorem answers_of_requested {metadata : Native.CommandMetadata} {point : Native.CommandPointResult} {ordinal : Nat}
    {command : Python.Command} (sent : r.commands[ordinal]? = some command) (index : point.index = command.native.index)
    (found : metadata.find point.key = some (Native.requestedPointJson format command.native ordinal)) :
    Python.Answers r.commands ordinal (clientPoint metadata point) := by
  have kind : command.native.kind.name = command.identity.1 := congrArg Prod.fst (Python.Command.native_identity command)
  have position : command.native.index.val = command.identity.2 :=
    congrArg Prod.snd (Python.Command.native_identity command)
  refine ⟨_, found, ?_, command, sent, ?_, ?_, ?_⟩
  · simp [Native.requestedPointJson]
  · rw [← position, ← index]
    rfl
  · simp [Native.requestedPointJson, kind]
  · rw [← position]
    simp [Native.requestedPointJson, Python.equalsIndex, Json.nat]

/-- The points answer the commands that they were requested with. -/
theorem Succeeds.answersBatch {op : Native.CommandOperation} {l : CommandLog} {points : List Native.CommandPointResult}
    (succeeds : Succeeds r format l op points) (mode : op.mode = operationName selectBeforeOperate) (now : Nat)
    (uncertain : Bool) :
    Python.AnswersBatch (operationName selectBeforeOperate) r.commands
      (clientResult succeeds.complete platform now .success uncertain) := by
  have distinct := (correlates format r).distinct
  generalize keys : r.native.commands.map (requestKey r.native.commands) = requested at distinct
  have perm := succeeds.perm
  rw [keys] at perm
  have size : requested.length = r.commands.length := by
    rw [← keys, List.length_map]
    exact List.length_map _
  refine ⟨by rw [← mode]; rfl, points.map fun p => requested.idxOf p.key, ?_, ?_⟩
  · have positions := perm.map requested.idxOf
    rwa [List.map_map, map_idxOf_self distinct, size] at positions
  · refine List.forall₂_map_left_iff.mpr (List.forall₂_map_right_iff.mpr (List.forall₂_same.mpr fun p member => ?_))
    have inside : p.key ∈ requested := perm.mem_iff.mp (List.mem_map_of_mem member)
    have here : requested[requested.idxOf p.key]? = some p.key := List.getElem?_idxOf inside
    rw [← keys] at here
    obtain ⟨command, sent, index, found⟩ := find_requested succeeds.metadata here
    rw [keys] at sent found
    exact answers_of_requested sent index found

/-- Whatever the stack calls, and in whatever order: when the host reports success for a batch, the client accepts the
result if the task was started or a point failed. It finds the batch it sent, and the points as the stack returned them. -/
theorem command_accepted (format : NumberFormat) (platform : Platform) (r : CommandRequest) (previous submitted now : Nat)
    (selectBeforeOperate : Bool) (trace : List CommandAction) (y y' : CommandCall) (result : Json)
    (run : (startCall format r previous selectBeforeOperate submitted).runs platform trace = some y)
    (last : y.step platform (.report now) = some y') (returned : y'.phase = .returned (.ok result)) :
    ∃ points, (CommandLog.of trace).ending = some ⟨.success, points, false⟩ ∧
      ((∃ parsed, Python.CommandTaskResult.fromMapping result = .ok parsed) ↔
        (CommandLog.of trace).started = true ∨ ∃ p ∈ points, ¬ (p.state = .success ∧ p.status = .success)) ∧
      ∀ parsed, Python.CommandTaskResult.fromMapping result = .ok parsed →
        Python.validateCommandCorrelation (operationName selectBeforeOperate) r.commands parsed = .ok () ∧
        parsed.pointResults.map (fun p => (p.headerIndex, p.index, p.state, p.statusRaw)) =
          points.map (fun p => (p.headerIndex, p.index.val, text p.state.name, p.status.raw)) ∧
        (parsed.allSuccess = true ↔ ∀ p ∈ points, p.state = .success ∧ p.status = .success) ∧
        (parsed.executionUncertain = true ↔ ∃ p ∈ parsed.pointResults, p.requiresManualReadback = true) := by
  have ok : y.op.outcome platform now = .ok result := by
    simp only [CommandCall.step] at last
    split at last
    · obtain rfl := Option.some.inj last
      exact Native.CommandPhase.returned.inj returned
    · cases last
  have mode : y.op.mode = operationName selectBeforeOperate :=
    (CommandCall.told_runs CommandCall.told_start run).fixed.2.1
  obtain ⟨points, succeeds, rfl⟩ := succeeds_of_ok run ok
  have parse : Python.CommandTaskResult.fromMapping (y.op.resultJson platform now .success (y.op.executionUncertain .success)) =
      if y.op.allSuccess .success = expected y.op .success
      then .ok (clientResult succeeds.complete platform now .success (y.op.executionUncertain .success))
      else .error (.value "command all_success is inconsistent with task/point results") := result_fields succeeds.complete
  have agree : y.op.allSuccess .success = expected y.op .success ↔
      (CommandLog.of trace).started = true ∨ ∃ p ∈ points, ¬ (p.state = .success ∧ p.status = .success) := by
    have all := succeeds.allSuccess_iff
    have count : y.op.successCount = y.op.expectedPoints ↔ y.op.allSuccess .success = true := by
      simp [Native.CommandOperation.allSuccess, succeeds.complete.returned, succeeds.complete.cancelled,
        succeeds.complete.errors]
    have lost : (∃ p ∈ points, ¬ (p.state = .success ∧ p.status = .success)) ↔ y.op.allSuccess .success = false := by
      rw [← Bool.not_eq_true, all]
      push Not
      rfl
    have both : expected y.op .success = (y.op.started && y.op.allSuccess .success) := by
      have decided : decide (y.op.successCount = y.op.expectedPoints) = y.op.allSuccess .success := by
        rw [Bool.eq_iff_iff, decide_eq_true_iff]
        exact count
      rw [expected, decided]
      simp
    rw [← succeeds.started, lost, both]
    cases y.op.started <;> cases y.op.allSuccess .success <;> simp
  refine ⟨points, succeeds.ending, ?_, fun parsed accepted => ?_⟩
  · rw [parse, ← agree]
    by_cases same : y.op.allSuccess .success = expected y.op .success
    · rw [if_pos same]
      exact iff_of_true ⟨_, rfl⟩ same
    · rw [if_neg same]
      exact iff_of_false (by simp) same
  · rw [parse] at accepted
    split at accepted
    · obtain rfl := Except.ok.inj accepted
      refine ⟨?_, ?_, succeeds.allSuccess_iff, succeeds.executionUncertain_iff⟩
      · exact Python.validateCommandCorrelation_ok.mpr (succeeds.answersBatch mode now _)
      · simp [clientResult, clientPoint]
    · cases accepted

/-- The example configuration is one a client can ask for. -/
theorem exists_exampleRequest : ∃ r : CommandRequest, r.native = CommandCall.exampleCommandConfig := by
  refine ⟨⟨text "0123456789abcdef0123456789ABCDEF", 10000, .response, [.analog ⟨7, .int (-5), .int16, ?_, -5, rfl, ?_, ?_⟩,
    .crob ⟨3, .latchOn, .null, false, 1, 100, 100, ?_, ?_, ?_, ?_⟩,
    .crob ⟨7, .pulseOn, .null, false, 2, 100, 100, ?_, ?_, ?_, ?_⟩], ?_, ?_, ?_, ?_⟩, rfl⟩
  all_goals decide

/-- A request of three commands, answered with success and accepted. -/
theorem command_accepted_example : ∃ (r : CommandRequest) (y y' : CommandCall) (result : Json),
    (startCall CommandCall.exampleFormat r 0 true 10).runs Native.examplePlatform
      [.submitted, .onStart 11, .result 12 .success CommandCall.exampleResults] = some y ∧
    y.step Native.examplePlatform (.report 13) = some y' ∧ y'.phase = .returned (.ok result) ∧
    ∃ parsed, Python.CommandTaskResult.fromMapping result = .ok parsed := by
  obtain ⟨r, native⟩ := exists_exampleRequest
  have returned : ∃ (y y' : CommandCall) (result : Json),
      (startCall CommandCall.exampleFormat r 0 true 10).runs Native.examplePlatform
        [.submitted, .onStart 11, .result 12 .success CommandCall.exampleResults] = some y ∧
      y.step Native.examplePlatform (.report 13) = some y' ∧ y'.phase = .returned (.ok result) := by
    unfold startCall
    rw [native]
    exact ⟨_, _, _, rfl, rfl, rfl⟩
  obtain ⟨y, y', result, run, last, returned⟩ := returned
  obtain ⟨points, -, accepted, -⟩ := command_accepted _ _ _ _ _ _ _ _ _ _ _ run last returned
  exact ⟨r, y, y', result, run, last, returned, accepted.mpr (.inl rfl)⟩

end Call

end CommandAgreement

end EmsDnp3
