import EmsDnp3.Native.CommandConfig
import EmsDnp3.Native.UnsolicitedStore

/-!
# Command tasks

`OpenDnp3CommandSupport.cpp`: how a batch of commands becomes a command set with one header for
each type, and the state of one command task. The stack returns results by header and point; the
key of both finds the command that was requested.
-/

namespace EmsDnp3.Native

/-! ## The command set -/

/-- What is sent for a point. -/
inductive CommandObject where
  | crob (operation : CrobOperation) (tripClose : TripCloseSelection) (clear : Bool) (count onTimeMs offTimeMs : Nat)
  | analogOutputInt16 (value : Int)
  | analogOutputInt32 (value : Int)
  | analogOutputFloat32 (value : Number)
  | analogOutputDouble64 (value : Number)
deriving DecidableEq

/-- The object a command puts on the wire. -/
def CommandPoint.object (point : CommandPoint) : CommandObject :=
  match point.kind with
  | .crob => .crob point.crobOperation point.tripClose point.clear point.count point.onTimeMs point.offTimeMs
  | .analogOutputInt16 => .analogOutputInt16 point.integerValue
  | .analogOutputInt32 => .analogOutputInt32 point.integerValue
  | .analogOutputFloat32 => .analogOutputFloat32 point.floatingValue
  | .analogOutputDouble64 => .analogOutputDouble64 point.floatingValue

/-- One header of an `opendnp3::CommandSet`; the set numbers its headers in the order of `Add`. -/
structure CommandHeader where
  kind : CommandKind
  items : List (CommandObject × PointIndex)

/-- How a `double`, and a `double` cast to `float`, is printed. -/
structure NumberFormat where
  double : Number → FloatLit
  single : Number → FloatLit

def pointKey (headerIndex : Nat) (index : PointIndex) : Nat := headerIndex <<< 16 ||| index.val

/-- What a reply repeats of the requested point. -/
def requestedPointJson (format : NumberFormat) (point : CommandPoint) (ordinal : Nat) : Json :=
  .object <|
    [("request_ordinal", .nat ordinal), ("type", .str point.kind.name), ("index", .nat point.index.val)] ++
    match point.kind with
    | .crob =>
      [("group", .nat 12), ("variation", .nat 1), ("operation", .str point.crobOperation.name),
       ("trip_close", .str point.tripClose.name), ("clear", .bool point.clear), ("count", .nat point.count),
       ("on_time_ms", .nat point.onTimeMs), ("off_time_ms", .nat point.offTimeMs)]
    | .analogOutputInt16 => [("group", .nat 41), ("variation", .nat 2), ("value", .int point.integerValue)]
    | .analogOutputInt32 => [("group", .nat 41), ("variation", .nat 1), ("value", .int point.integerValue)]
    | .analogOutputFloat32 =>
      [("group", .nat 41), ("variation", .nat 3), ("value", .float (format.single point.floatingValue))]
    | .analogOutputDouble64 =>
      [("group", .nat 41), ("variation", .nat 4), ("value", .float (format.double point.floatingValue))]

/-- `std::map<std::uint64_t, Json>` -/
abbrev CommandMetadata := List (Nat × Json)

/-- `emplace`: a key that is present keeps its value. -/
def CommandMetadata.emplace (metadata : CommandMetadata) (entry : Nat × Json) : CommandMetadata :=
  if metadata.any (·.1 = entry.1) then metadata else metadata ++ [entry]

def CommandMetadata.find (metadata : CommandMetadata) (key : Nat) : Option Json :=
  (metadata.find? (·.1 = key)).map (·.2)

/-- The command set, and what was noted while it was built. -/
structure BuiltCommands where
  commandSet : List CommandHeader := []
  metadata : CommandMetadata := []
  expectedPoints : Nat := 0
  headerIndex : Nat := 0

/-- `grouped[kind]`: the commands of a kind with their ordinals. -/
def grouped (commands : List CommandPoint) (kind : CommandKind) : List (CommandPoint × Nat) :=
  commands.zipIdx.filter fun entry => entry.1.kind = kind

/-- The header of a kind, if it has commands, with `add_metadata`. -/
def BuiltCommands.addHeader (format : NumberFormat) (commands : List CommandPoint) (built : BuiltCommands)
    (kind : CommandKind) : BuiltCommands :=
  let entries := grouped commands kind
  if entries = [] then built
  else
    { built with
      commandSet := built.commandSet ++ [⟨kind, entries.map fun entry => (entry.1.object, entry.1.index)⟩]
      metadata := entries.foldl (fun metadata entry => metadata.emplace
        (pointKey built.headerIndex entry.1.index, requestedPointJson format entry.1 entry.2)) built.metadata
      headerIndex := built.headerIndex + 1 }

/-- The order in which the headers are added. -/
def commandKinds : List CommandKind :=
  [.crob, .analogOutputInt16, .analogOutputInt32, .analogOutputFloat32, .analogOutputDouble64]

/-- `build_command_set`: one header for each kind present. -/
def buildCommandSet (format : NumberFormat) (config : CommandConfig) : BuiltCommands :=
  { commandKinds.foldl (BuiltCommands.addHeader format config.commands) {} with expectedPoints := config.commands.length }

/-! ## The task -/

/-- How far OpenDNP3 got with a point. -/
inductive CommandPointState where
  | init
  | selectSuccess
  | selectMismatch
  | selectFail
  | operateFail
  | success
deriving DecidableEq, Repr

/-- `CommandPointStateSpec::to_string` -/
def CommandPointState.name : CommandPointState → String
  | .init => "INIT"
  | .selectSuccess => "SELECT_SUCCESS"
  | .selectMismatch => "SELECT_MISMATCH"
  | .selectFail => "SELECT_FAIL"
  | .operateFail => "OPERATE_FAIL"
  | .success => "SUCCESS"

/-- `CommandPointStateSpec::to_type` -/
def CommandPointState.raw : CommandPointState → Nat
  | .init => 0
  | .selectSuccess => 1
  | .selectMismatch => 2
  | .selectFail => 3
  | .operateFail => 4
  | .success => 5

/-- `opendnp3::CommandPointResult` -/
structure CommandPointResult where
  headerIndex : Nat
  index : PointIndex
  state : CommandPointState
  status : CommandStatus
deriving DecidableEq

def CommandPointResult.key (point : CommandPointResult) : Nat := pointKey point.headerIndex point.index

def CommandPointResult.succeeded (point : CommandPointResult) : Bool := point.state = .success ∧ point.status = .success

/-- `CommandOperation`: one command task and what was reported to it. -/
structure CommandOperation where
  taskId : Nat
  mode : String
  timeoutMs : Nat
  metadata : CommandMetadata
  expectedPoints : Nat
  submittedMonotonicNs : Nat
  started : Bool := false
  destroyed : Bool := false
  cancelled : Bool := false
  done : Bool := false
  taskCallbackCompletion : Option TaskCompletion := none
  taskCompletion : Option TaskCompletion := none
  startedMonotonicNs : Option Nat := none
  completedMonotonicNs : Option Nat := none
  pointResults : List Json := []
  successCount : Nat := 0
  manualReadbackCount : Nat := 0
  correlationErrorCount : Nat := 0
  byStatus : Counts Text := []
  byState : Counts Text := []

/-- What the callback of `ForeachItem` accumulates. -/
structure CommandTally where
  serialized : List Json := []
  successCount : Nat := 0
  manualReadbackCount : Nat := 0
  correlationErrorCount : Nat := 0
  returnedKeys : List Nat := []
  byStatus : Counts Text := []
  byState : Counts Text := []

/-- A result as the reply lists it, with the request it answers. -/
def commandPointJson (metadata : CommandMetadata) (point : CommandPointResult) : Json :=
  .object
    [("header_index", .nat point.headerIndex), ("index", .nat point.index.val), ("state", .str point.state.name),
     ("state_raw", .nat point.state.raw), ("status", .str (commandStatusName2012 point.status.raw)),
     ("status_raw", .nat point.status.raw), ("status_edition", .str kTargetProtocolEdition),
     ("status_backend", .str point.status.name),
     ("status_reserved_2012", .bool (commandStatusIsReserved2012 point.status.raw)),
     ("status_wire_raw_unambiguous", .bool (commandStatusWireRawUnambiguous point.status.raw)),
     ("requested", (metadata.find point.key).getD .null)]

/-- What `complete` counts of a result. -/
def CommandTally.add (metadata : CommandMetadata) (t : CommandTally) (point : CommandPointResult) : CommandTally :=
  let foreign := (metadata.find point.key).isNone
  { serialized := t.serialized ++ [commandPointJson metadata point]
    successCount := if point.succeeded then t.successCount + 1 else t.successCount
    manualReadbackCount :=
      if commandStatusRequiresManualReadback2012 point.status.raw then t.manualReadbackCount + 1
      else t.manualReadbackCount
    correlationErrorCount :=
      if foreign || t.returnedKeys.contains point.key then t.correlationErrorCount + 1 else t.correlationErrorCount
    -- `insert` is not reached for a foreign point
    returnedKeys := if foreign || t.returnedKeys.contains point.key then t.returnedKeys else t.returnedKeys ++ [point.key]
    byStatus := t.byStatus.increment (text (commandStatusName2012 point.status.raw))
    byState := t.byState.increment (text point.state.name) }

namespace CommandOperation

def markStarted (now : Nat) (op : CommandOperation) : CommandOperation :=
  if op.started then op else { op with started := true, startedMonotonicNs := some now }

/-- The completion is only noted; what follows decides. -/
def markTaskComplete (completion : TaskCompletion) (op : CommandOperation) : CommandOperation :=
  { op with taskCallbackCompletion := some completion }

/-- A task that is destroyed behind its completion, without a result, ends there. -/
def markDestroyed (now : Nat) (op : CommandOperation) : CommandOperation :=
  let op := { op with destroyed := true }
  match op.done, op.taskCallbackCompletion with
  | false, some completion =>
    { op with taskCompletion := some completion, completedMonotonicNs := some now, done := true }
  | _, _ => op

/-- The result callback ends the operation, once. -/
def complete (now : Nat) (summary : TaskCompletion) (points : List CommandPointResult) (op : CommandOperation) :
    CommandOperation :=
  let t := points.foldl (CommandTally.add op.metadata) {}
  if op.done then op
  else
    { op with
      taskCompletion := some summary, pointResults := t.serialized, successCount := t.successCount
      manualReadbackCount := t.manualReadbackCount, correlationErrorCount := t.correlationErrorCount
      byStatus := t.byStatus, byState := t.byState, completedMonotonicNs := some now, done := true }

/-- A cancelled operation ends as a failure of the communication. -/
def cancel (now : Nat) (op : CommandOperation) : CommandOperation :=
  if op.done then op
  else
    { op with
      cancelled := true, destroyed := true, taskCompletion := some .failureNoComms, completedMonotonicNs := some now
      done := true }

/-- `all_success`: every expected point answered, each with success, nothing foreign. -/
def allSuccess (completion : TaskCompletion) (op : CommandOperation) : Bool :=
  completion = .success && (op.pointResults.length = op.expectedPoints && op.successCount = op.expectedPoints) &&
    !op.cancelled && op.correlationErrorCount = 0

def taskFailed (completion : TaskCompletion) (op : CommandOperation) : Bool := completion ≠ .success || op.cancelled

/-- `execution_uncertain`: the outstation may have acted without the master knowing. -/
def executionUncertain (completion : TaskCompletion) (op : CommandOperation) : Bool :=
  op.started && op.taskFailed completion || 0 < op.manualReadbackCount || 0 < op.correlationErrorCount

/-- The result object; `uncertain` is what it says of the execution. -/
def resultJson (platform : Platform) (now : Nat) (completion : TaskCompletion) (uncertain : Bool) (op : CommandOperation) :
    Json :=
  let completedAt := op.completedMonotonicNs.getD now
  let durationNs := if op.submittedMonotonicNs ≤ completedAt then completedAt - op.submittedMonotonicNs else 0
  .object
    [("task_id", .nat op.taskId), ("mode", .str op.mode), ("response_mode", .str "response"),
     ("task_status", .str completion.name),
     ("task_callback_status", .ofOption (fun c : TaskCompletion => .str c.name) op.taskCallbackCompletion),
     ("task_started", .bool op.started), ("task_destroyed", .bool op.destroyed),
     ("all_success", .bool (op.allSuccess completion)), ("execution_uncertain", .bool uncertain),
     ("point_results", .arr op.pointResults),
     ("summary", .object
       [("requested_points", .nat op.expectedPoints), ("returned_points", .nat op.pointResults.length),
        ("successful_points", .nat op.successCount), ("failed_points", .nat (op.pointResults.length - op.successCount)),
        ("manual_readback_points", .nat op.manualReadbackCount), ("correlation_errors", .nat op.correlationErrorCount),
        ("by_status", countsJson op.byStatus), ("by_state", countsJson op.byState)]),
     ("timings", .object
       [("submitted_monotonic_ns", .nat op.submittedMonotonicNs),
        ("started_monotonic_ns", .ofOption .nat op.startedMonotonicNs), ("completed_monotonic_ns", .nat completedAt),
        ("duration_ms", .float (platform.durationMs durationNs))])]

/-- What `wait` returns once the operation is done. -/
def outcome (platform : Platform) (now : Nat) (op : CommandOperation) : BackendOperationResult :=
  match op.done, op.taskCompletion with
  | true, some completion =>
    let uncertain := op.executionUncertain completion
    if op.taskFailed completion then
      .error { code := if completion = .failureResponseTimeout then .responseTimeout else .commandFailed
               message := "DNP3 command task did not complete successfully"
               details := .object [("task_id", .nat op.taskId), ("task_status", .str completion.name),
                 ("execution_uncertain", .bool uncertain), ("may_still_execute", .bool uncertain),
                 ("operation_result", op.resultJson platform now completion uncertain),
                 ("automatic_retry_safe", .bool false)] }
    else if op.pointResults.length ≠ op.expectedPoints ∨ 0 < op.correlationErrorCount then
      .error { code := .protocolError
               message := "DNP3 command result could not be correlated to every requested point"
               details := .object [("task_id", .nat op.taskId), ("requested_points", .nat op.expectedPoints),
                 ("returned_points", .nat op.pointResults.length), ("correlation_errors", .nat op.correlationErrorCount),
                 ("execution_uncertain", .bool true), ("may_still_execute", .bool true),
                 ("operation_result", op.resultJson platform now completion true),
                 ("automatic_retry_safe", .bool false)] }
    else .ok (op.resultJson platform now completion uncertain)
  | _, _ =>
    .error { code := .responseTimeout
             message := "DNP3 command task did not complete before the configured deadline"
             details := .object [("task_id", .nat op.taskId), ("timeout_ms", .nat op.timeoutMs),
               ("task_started", .bool op.started), ("execution_uncertain", .bool true), ("may_still_execute", .bool true),
               ("automatic_retry_safe", .bool false)] }

end CommandOperation

end EmsDnp3.Native
