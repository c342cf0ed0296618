import EmsDnp3.Native.CommandCorrelation

/-!
# One call of a command task

`Impl::execute` from the submission of its task, with the callbacks of the stack and a cancel in
any order. A log of the actions says whether the task started and what ended it; the outcome is a
function of the log.
-/

namespace EmsDnp3.Native

/-- Where the calling thread stands. -/
inductive CommandPhase where
  | submitting
  | waiting
  | returned (result : BackendOperationResult)

/-- An operation and where its caller is. -/
structure CommandCall where
  op : CommandOperation
  phase : CommandPhase := .submitting

/-- What can happen to it: the callbacks, a cancellation and the caller's own steps. -/
inductive CommandAction where
  | onStart (now : Nat)
  | onComplete (completion : TaskCompletion)
  | onDestroyed (now : Nat)
  | result (now : Nat) (summary : TaskCompletion) (points : List CommandPointResult)
  | cancel (now : Nat)
  | submitted
  | rejected (now : Nat) (message : Option String)
  -- the wait ended, in time or not
  | report (now : Nat)
deriving DecidableEq

namespace CommandCall

/-- The reply where the submission threw. -/
def rejection (message : Option String) (op : CommandOperation) : BackendOperationResult :=
  .error { code := .internalError, message := "OpenDNP3 rejected the command task submission"
           details := .object <| [("task_id", .nat op.taskId)] ++
             (match message with
              | some what => [("backend_message", .str what)]
              | none => []) ++
             [("execution_uncertain", .bool true), ("may_still_execute", .bool true),
              ("automatic_retry_safe", .bool false)] }

/-- One critical section; `none` where the calling thread is not at that point. -/
def step (platform : Platform) (y : CommandCall) : CommandAction → Option CommandCall
  | .onStart now => some { y with op := y.op.markStarted now }
  | .onComplete completion => some { y with op := y.op.markTaskComplete completion }
  | .onDestroyed now => some { y with op := y.op.markDestroyed now }
  | .result now summary points => some { y with op := y.op.complete now summary points }
  | .cancel now => some { y with op := y.op.cancel now }
  | .submitted =>
    match y.phase with
    | .submitting => some { y with phase := .waiting }
    | _ => none
  | .rejected now message =>
    match y.phase with
    | .submitting => some { op := y.op.cancel now, phase := .returned (rejection message y.op) }
    | _ => none
  | .report now =>
    match y.phase with
    | .waiting => some { y with phase := .returned (y.op.outcome platform now) }
    | _ => none

/-- A run of a call; `none` where an action was not possible. -/
def runs (platform : Platform) (y : CommandCall) (actions : List CommandAction) : Option CommandCall :=
  actions.foldlM (step platform) y

/-- The call at the submission of a batch. -/
def start (format : NumberFormat) (config : CommandConfig) (taskId : Nat) (selectBeforeOperate : Bool) (submitted : Nat) :
    CommandCall where
  op :=
    { taskId, mode := if selectBeforeOperate then "select_and_operate" else "direct_operate"
      timeoutMs := config.timeoutMs, metadata := (buildCommandSet format config).metadata
      expectedPoints := (buildCommandSet format config).expectedPoints, submittedMonotonicNs := submitted }

end CommandCall

/-! ## What the actions say -/

/-- What ended a task: its completion, the results that came with it, and whether it was a cancel. -/
structure CommandEnd where
  completion : TaskCompletion
  points : List CommandPointResult
  cancelled : Bool
deriving DecidableEq

/-- What was told to the operation: its start, its completion and how it ended. -/
structure CommandLog where
  started : Bool := false
  callback : Option TaskCompletion := none
  ending : Option CommandEnd := none
deriving DecidableEq

/-- Only the first end counts. -/
def CommandLog.end_ (l : CommandLog) (ending : CommandEnd) : CommandLog :=
  if l.ending.isSome then l else { l with ending := some ending }

/-- What an action tells. -/
def CommandLog.step (l : CommandLog) : CommandAction → CommandLog
  | .onStart _ => { l with started := true }
  | .onComplete completion => { l with callback := some completion }
  | .onDestroyed _ =>
    match l.callback with
    | some completion => l.end_ ⟨completion, [], false⟩
    | none => l
  | .result _ summary points => l.end_ ⟨summary, points, false⟩
  | .cancel _ | .rejected _ _ => l.end_ ⟨.failureNoComms, [], true⟩
  | .submitted | .report _ => l

def CommandLog.of (trace : List CommandAction) : CommandLog := trace.foldl step {}

/-- The task did not end in time, ended otherwise than with SUCCESS, or was cancelled. -/
def CommandLog.Failed (l : CommandLog) : Prop :=
  ∀ ending, l.ending = some ending → ending.completion ≠ .success ∨ ending.cancelled = true

/-- The results of an ended task. -/
def CommandLog.points (l : CommandLog) : List CommandPointResult := (l.ending.map (·.points)).getD []

namespace CommandOperation

/-- What a task has counted. -/
def tally (op : CommandOperation) : List Json × Nat × Nat × Nat × Counts Text × Counts Text :=
  (op.pointResults, op.successCount, op.manualReadbackCount, op.correlationErrorCount, op.byStatus, op.byState)

end CommandOperation

def CommandTally.counts (t : CommandTally) : List Json × Nat × Nat × Nat × Counts Text × Counts Text :=
  (t.serialized, t.successCount, t.manualReadbackCount, t.correlationErrorCount, t.byStatus, t.byState)

namespace CommandCall

variable {platform : Platform} {first y y' : CommandCall} {a : CommandAction} {trace : List CommandAction} {l : CommandLog}

/-- The task, told from the log. -/
structure Told (first y : CommandCall) (l : CommandLog) : Prop where
  fixed : y.op.taskId = first.op.taskId ∧ y.op.mode = first.op.mode ∧ y.op.metadata = first.op.metadata ∧
    y.op.expectedPoints = first.op.expectedPoints
  started : y.op.started = l.started
  callback : y.op.taskCallbackCompletion = l.callback
  done : y.op.done = l.ending.isSome
  completion : y.op.taskCompletion = l.ending.map (·.completion)
  cancelled : y.op.cancelled = (l.ending.map (·.cancelled)).getD false
  tally : y.op.tally = (l.points.foldl (CommandTally.add first.op.metadata) {}).counts

/-- How a task ends: it takes the completion, the results and the cancellation of its end. -/
structure Ends (op op' : CommandOperation) (ending : CommandEnd) : Prop where
  fixed : op'.taskId = op.taskId ∧ op'.mode = op.mode ∧ op'.metadata = op.metadata ∧ op'.expectedPoints = op.expectedPoints
  started : op'.started = op.started
  callback : op'.taskCallbackCompletion = op.taskCallbackCompletion
  done : op'.done = true
  completion : op'.taskCompletion = some ending.completion
  cancelled : op'.cancelled = (ending.cancelled || op.cancelled)
  tally : op.tally = CommandTally.counts {} → op'.tally = (ending.points.foldl (CommandTally.add op.metadata) {}).counts

/-- An end is told once. -/
theorem Told.ends {op' : CommandOperation} {ending : CommandEnd} (t : Told first y l) (running : y.op.done = false)
    (ends : Ends y.op op' ending) (phase : CommandPhase) : Told first ⟨op', phase⟩ (l.end_ ending) := by
  have open_ : l.ending = none := by simpa [running] using t.done
  have log : l.end_ ending = { l with ending := some ending } := by simp [CommandLog.end_, open_]
  have empty : y.op.tally = (CommandTally.counts {}) := by simpa [CommandLog.points, open_] using t.tally
  rw [log]
  refine ⟨?_, ends.started.trans t.started, ends.callback.trans t.callback, ends.done, ends.completion, ?_, ?_⟩
  · obtain ⟨taskId, mode, metadata, expected⟩ := ends.fixed
    exact ⟨taskId.trans t.fixed.1, mode.trans t.fixed.2.1, metadata.trans t.fixed.2.2.1, expected.trans t.fixed.2.2.2⟩
  · have before : y.op.cancelled = false := by simpa [open_] using t.cancelled
    simpa [before] using ends.cancelled
  · rw [← t.fixed.2.2.1]
    exact ends.tally empty

theorem Told.ended {ending : CommandEnd} (t : Told first y l) (done : y.op.done = true) : l.end_ ending = l := by
  have some_ : l.ending.isSome = true := t.done.symm.trans done
  simp [CommandLog.end_, some_]

/-- The result callback ends an operation. -/
theorem ends_complete {op : CommandOperation} (running : op.done = false) (now : Nat) (summary : TaskCompletion)
    (points : List CommandPointResult) : Ends op (op.complete now summary points) ⟨summary, points, false⟩ := by
  unfold CommandOperation.complete
  dsimp only
  rw [running, if_neg Bool.false_ne_true]
  exact ⟨⟨rfl, rfl, rfl, rfl⟩, rfl, rfl, rfl, rfl, rfl, fun _ => rfl⟩

theorem ends_cancel {op : CommandOperation} (running : op.done = false) (now : Nat) :
    Ends op (op.cancel now) ⟨.failureNoComms, [], true⟩ := by
  unfold CommandOperation.cancel
  rw [running, if_neg Bool.false_ne_true]
  exact ⟨⟨rfl, rfl, rfl, rfl⟩, rfl, rfl, rfl, rfl, rfl, id⟩

/-- A destruction behind the completion ends it too. -/
theorem ends_markDestroyed {op : CommandOperation} (running : op.done = false) (now : Nat) {completion : TaskCompletion}
    (called : op.taskCallbackCompletion = some completion) : Ends op (op.markDestroyed now) ⟨completion, [], false⟩ := by
  unfold CommandOperation.markDestroyed
  dsimp only
  rw [running, called]
  exact ⟨⟨rfl, rfl, rfl, rfl⟩, rfl, called.symm, rfl, rfl, rfl, id⟩

/-- A step that leaves what the log is about. -/
theorem Told.same {op' : CommandOperation} (t : Told first y l) (phase : CommandPhase)
    (fixed : op'.taskId = y.op.taskId ∧ op'.mode = y.op.mode ∧ op'.metadata = y.op.metadata ∧
      op'.expectedPoints = y.op.expectedPoints)
    (callback : op'.taskCallbackCompletion = y.op.taskCallbackCompletion) (started : op'.started = y.op.started)
    (done : op'.done = y.op.done) (completion : op'.taskCompletion = y.op.taskCompletion)
    (cancelled : op'.cancelled = y.op.cancelled) (tally : op'.tally = y.op.tally) : Told first ⟨op', phase⟩ l := by
  obtain ⟨taskId, mode, metadata, expected⟩ := fixed
  exact ⟨⟨taskId.trans t.fixed.1, mode.trans t.fixed.2.1, metadata.trans t.fixed.2.2.1, expected.trans t.fixed.2.2.2⟩,
    started.trans t.started, callback.trans t.callback, done.trans t.done, completion.trans t.completion,
    cancelled.trans t.cancelled, tally.trans t.tally⟩

/-- A cancellation is told. -/
theorem Told.cancel (t : Told first y l) (now : Nat) (phase : CommandPhase) :
    Told first ⟨y.op.cancel now, phase⟩ (l.end_ ⟨.failureNoComms, [], true⟩) := by
  cases done : y.op.done with
  | false => exact t.ends done (ends_cancel done now) phase
  | true =>
    have same : y.op.cancel now = y.op := by simp [CommandOperation.cancel, done]
    rw [t.ended done, same]
    exact t.same phase ⟨rfl, rfl, rfl, rfl⟩ rfl rfl rfl rfl rfl rfl

/-- Every step tells what it did. -/
theorem Told.step (t : Told first y l) (run : y.step platform a = some y') : Told first y' (l.step a) := by
  cases a with
  | onStart now =>
    obtain rfl := Option.some.inj run
    cases already : y.op.started with
    | true =>
      have same : y.op.markStarted now = y.op := by simp [CommandOperation.markStarted, already]
      rw [same]
      exact ⟨t.fixed, already, t.callback, t.done, t.completion, t.cancelled, t.tally⟩
    | false =>
      have marked : y.op.markStarted now = { y.op with started := true, startedMonotonicNs := some now } := by
        simp [CommandOperation.markStarted, already]
      rw [marked]
      exact ⟨t.fixed, rfl, t.callback, t.done, t.completion, t.cancelled, t.tally⟩
  | onComplete completion =>
    obtain rfl := Option.some.inj run
    exact ⟨t.fixed, t.started, rfl, t.done, t.completion, t.cancelled, t.tally⟩
  | onDestroyed now =>
    obtain rfl := Option.some.inj run
    unfold CommandLog.step
    cases called : y.op.taskCallbackCompletion with
    | none =>
      have same : y.op.markDestroyed now = { y.op with destroyed := true } := by
        unfold CommandOperation.markDestroyed
        simp [called]
      rw [← t.callback, called, same]
      exact t.same y.phase ⟨rfl, rfl, rfl, rfl⟩ rfl rfl rfl rfl rfl rfl
    | some completion =>
      rw [← t.callback, called]
      cases done : y.op.done with
      | false => exact t.ends done (ends_markDestroyed done now called) y.phase
      | true =>
        have same : y.op.markDestroyed now = { y.op with destroyed := true } := by
          unfold CommandOperation.markDestroyed
          simp [done]
        dsimp only
        rw [t.ended done, same]
        exact t.same y.phase ⟨rfl, rfl, rfl, rfl⟩ rfl rfl rfl rfl rfl rfl
  | result now summary points =>
    obtain rfl := Option.some.inj run
    cases done : y.op.done with
    | false => exact t.ends done (ends_complete done now summary points) y.phase
    | true =>
      have same : y.op.complete now summary points = y.op := by simp [CommandOperation.complete, done]
      simp only [CommandLog.step, t.ended done, same]
      exact t
  | cancel now =>
    obtain rfl := Option.some.inj run
    exact t.cancel now y.phase
  | submitted | report now =>
    simp only [CommandCall.step] at run
    split at run
    · obtain rfl := Option.some.inj run
      exact t.same _ ⟨rfl, rfl, rfl, rfl⟩ rfl rfl rfl rfl rfl rfl
    · cases run
  | rejected now message =>
    simp only [CommandCall.step] at run
    split at run
    · obtain rfl := Option.some.inj run
      exact t.cancel now _
    · cases run

/-- Every run tells what its steps did. -/
theorem told_runs (fresh : Told first first {}) (run : first.runs platform trace = some y) :
    Told first y (CommandLog.of trace) := by
  induction trace using List.reverseRecOn generalizing y with
  | nil =>
    obtain rfl := Option.some.inj run
    exact fresh
  | append_singleton trace a ih =>
    have split : first.runs platform (trace ++ [a]) = (first.runs platform trace).bind fun y => y.step platform a := by
      simp only [runs, List.foldlM_append]
      simp
    rw [split] at run
    obtain ⟨x, earlier, last⟩ := Option.bind_eq_some_iff.mp run
    have log : CommandLog.of (trace ++ [a]) = (CommandLog.of trace).step a := by simp [CommandLog.of]
    rw [log]
    exact (ih earlier).step last

end CommandCall

/-! ## The outcome -/

/-- An error that says the commands may have been executed and may still be. -/
def Uncertain (result : BackendOperationResult) : Prop :=
  ∃ e, result = .error e ∧ e.details.get? (text "execution_uncertain") = some (.bool true) ∧
    e.details.get? (text "may_still_execute") = some (.bool true)

/-- The result object that a reply carries: in an error it is part of the details. -/
def reportedResult : BackendOperationResult → Option Json
  | .ok result => some result
  | .error e => e.details.get? (text "operation_result")

/-- The reply says that every point succeeded. -/
def ReportsAllSuccess (result : BackendOperationResult) : Prop :=
  ((reportedResult result).bind fun r => r.get? (text "all_success")) = some (.bool true)

namespace CommandOperation

variable {platform : Platform} {now : Nat} {op : CommandOperation}

theorem resultJson_allSuccess (completion : TaskCompletion) (uncertain : Bool) :
    (op.resultJson platform now completion uncertain).get? (text "all_success") =
      some (.bool (op.allSuccess completion)) := by
  simp [resultJson]

theorem allSuccess_iff {completion : TaskCompletion} : op.allSuccess completion = true ↔
    completion = .success ∧ op.cancelled = false ∧ op.pointResults.length = op.expectedPoints ∧
      op.successCount = op.expectedPoints ∧ op.correlationErrorCount = 0 := by
  simp [allSuccess]
  tauto

/-- The outcome of a task that did not end. -/
theorem outcome_running (running : op.done = false) : Uncertain (op.outcome platform now) ∧
    ¬ ReportsAllSuccess (op.outcome platform now) := by
  have outcome : ∃ e, op.outcome platform now = .error e ∧ e.details = .object [("task_id", .nat op.taskId),
      ("timeout_ms", .nat op.timeoutMs), ("task_started", .bool op.started), ("execution_uncertain", .bool true),
      ("may_still_execute", .bool true), ("automatic_retry_safe", .bool false)] := by
    unfold CommandOperation.outcome
    rw [running]
    exact ⟨_, rfl, rfl⟩
  obtain ⟨e, failed, details⟩ := outcome
  rw [failed]
  constructor
  · exact ⟨e, rfl, by simp [details], by simp [details]⟩
  · simp [ReportsAllSuccess, reportedResult, details]

/-- The three outcomes of a task that ended. -/
theorem outcome_done {completion : TaskCompletion} (done : op.done = true) (ended : op.taskCompletion = some completion) :
    (op.taskFailed completion = true ∧ ∃ e, op.outcome platform now = .error e ∧
      e.details.get? (text "execution_uncertain") = some (.bool (op.executionUncertain completion)) ∧
      e.details.get? (text "may_still_execute") = some (.bool (op.executionUncertain completion)) ∧
      reportedResult (.error e) = some (op.resultJson platform now completion (op.executionUncertain completion))) ∨
    (op.taskFailed completion = false ∧ (op.pointResults.length ≠ op.expectedPoints ∨ 0 < op.correlationErrorCount) ∧
      ∃ e, op.outcome platform now = .error e ∧ Uncertain (.error e) ∧
        reportedResult (.error e) = some (op.resultJson platform now completion true)) ∨
    (op.taskFailed completion = false ∧ op.pointResults.length = op.expectedPoints ∧ op.correlationErrorCount = 0 ∧
      op.outcome platform now = .ok (op.resultJson platform now completion (op.executionUncertain completion))) := by
  unfold CommandOperation.outcome
  rw [done, ended]
  dsimp only
  by_cases failed : op.taskFailed completion = true
  · rw [if_pos failed]
    exact .inl ⟨failed, _, rfl, by simp, by simp, by simp [reportedResult]⟩
  · rw [if_neg failed]
    have failed : op.taskFailed completion = false := by simpa using failed
    by_cases lost : op.pointResults.length ≠ op.expectedPoints ∨ 0 < op.correlationErrorCount
    · rw [if_pos lost]
      exact .inr (.inl ⟨failed, lost, _, rfl, ⟨_, rfl, by simp, by simp⟩, by simp [reportedResult]⟩)
    · rw [if_neg lost]
      push Not at lost
      exact .inr (.inr ⟨failed, lost.1, Nat.le_zero.mp lost.2, rfl⟩)

/-- Every reply shows the one verdict. -/
theorem reports_iff {completion : TaskCompletion} (done : op.done = true) (ended : op.taskCompletion = some completion) :
    ReportsAllSuccess (op.outcome platform now) ↔ op.allSuccess completion = true := by
  have shown : ∀ {result : BackendOperationResult} {uncertain : Bool},
      reportedResult result = some (op.resultJson platform now completion uncertain) →
      (ReportsAllSuccess result ↔ op.allSuccess completion = true) := by
    intro result uncertain carried
    simp [ReportsAllSuccess, carried, resultJson_allSuccess]
  rcases @outcome_done platform now op completion done ended with ⟨-, e, failed, -, -, carried⟩ |
    ⟨-, -, e, failed, -, carried⟩ | ⟨-, -, -, ok⟩
  · rw [failed]
    exact shown carried
  · rw [failed]
    exact shown carried
  · rw [ok]
    exact shown rfl

end CommandOperation

namespace CommandCall

variable {platform : Platform} {format : NumberFormat} {config : CommandConfig} {taskId submitted : Nat}
  {selectBeforeOperate : Bool} {trace : List CommandAction} {y y' : CommandCall} {a : CommandAction}
  {result : BackendOperationResult}

theorem told_start : Told (start format config taskId selectBeforeOperate submitted)
    (start format config taskId selectBeforeOperate submitted) {} :=
  ⟨⟨rfl, rfl, rfl, rfl⟩, rfl, rfl, rfl, rfl, rfl, rfl⟩

/-- A call returns the outcome of its task, or that the stack rejected it. -/
theorem step_returned (run : y.step platform a = some y') (before : ∀ r, y.phase ≠ .returned r)
    (returned : y'.phase = .returned result) :
    (∃ now, a = .report now ∧ result = y.op.outcome platform now) ∨
      ∃ now message, a = .rejected now message ∧ result = rejection message y.op := by
  cases a with
  | onStart | onComplete | onDestroyed | result | cancel =>
    obtain rfl := Option.some.inj run
    exact absurd returned (before _)
  | submitted =>
    simp only [step] at run
    split at run
    · obtain rfl := Option.some.inj run
      cases returned
    · cases run
  | rejected now message =>
    simp only [step] at run
    split at run
    · obtain rfl := Option.some.inj run
      exact .inr ⟨now, message, rfl, (CommandPhase.returned.inj returned).symm⟩
    · cases run
  | report now =>
    simp only [step] at run
    split at run
    · obtain rfl := Option.some.inj run
      exact .inl ⟨now, rfl, (CommandPhase.returned.inj returned).symm⟩
    · cases run

/-- A rejected submission leaves the execution uncertain and never reports success. -/
theorem rejection_uncertain (message : Option String) (op : CommandOperation) :
    Uncertain (rejection message op) ∧ ¬ ReportsAllSuccess (rejection message op) := by
  cases message with
  | none => exact ⟨⟨_, rfl, by simp, by simp⟩, by simp [rejection, ReportsAllSuccess, reportedResult]⟩
  | some what => exact ⟨⟨_, rfl, by simp, by simp⟩, by simp [rejection, ReportsAllSuccess, reportedResult]⟩

section Ended

variable {first : CommandCall} {l : CommandLog} {ending : CommandEnd} {commands : List CommandPoint} {built : BuiltCommands}

/-- What an ended task has counted. -/
structure Counted (y : CommandCall) (commands : List CommandPoint) (ending : CommandEnd) : Prop where
  done : y.op.done = true
  completion : y.op.taskCompletion = some ending.completion
  cancelled : y.op.cancelled = ending.cancelled
  returned : y.op.pointResults.length = ending.points.length
  success : y.op.successCount = ending.points.countP (·.succeeded)
  expected : y.op.expectedPoints = commands.length
  perm_iff : (y.op.pointResults.length = y.op.expectedPoints ∧ y.op.correlationErrorCount = 0) ↔
    (ending.points.map (·.key)).Perm (commands.map (requestKey commands))

/-- The counters of an operation that ended are those of its results. -/
theorem Told.counted (t : Told first y l) (ended : l.ending = some ending) (correlates : Correlates format commands built)
    (metadata : first.op.metadata = built.metadata) (expected : first.op.expectedPoints = built.expectedPoints) :
    Counted y commands ending := by
  have points : l.points = ending.points := by simp [CommandLog.points, ended]
  have of := CommandTally.of_all first.op.metadata ending.points
  have tally := t.tally
  rw [points] at tally
  simp only [CommandOperation.tally, CommandTally.counts, Prod.mk.injEq] at tally
  obtain ⟨results, success, -, errors, -, -⟩ := tally
  have count : y.op.expectedPoints = commands.length := t.fixed.2.2.2.trans (expected.trans correlates.expected)
  have length : y.op.pointResults.length = ending.points.length := by rw [results, of.serialized, List.length_map]
  refine ⟨by rw [t.done, ended]; rfl, by rw [t.completion, ended]; rfl, by rw [t.cancelled, ended]; rfl, length,
    success.trans of.success, count, ?_⟩
  have same := of.perm_iff correlates.distinct (fun key => by rw [metadata]; exact correlates.mem_keys key)
  rw [← same, length, count, errors, List.length_map]

/-- `all_success` in terms of the results: each command is answered once, with success. -/
theorem Counted.allSuccess_iff (c : Counted y commands ending) : y.op.allSuccess ending.completion = true ↔
    ending.completion = .success ∧ ending.cancelled = false ∧
      (ending.points.map (·.key)).Perm (commands.map (requestKey commands)) ∧
      ∀ p ∈ ending.points, p.state = .success ∧ p.status = .success := by
  rw [CommandOperation.allSuccess_iff, c.cancelled, ← c.perm_iff]
  have every : ending.points.countP (·.succeeded) = ending.points.length ↔
      ∀ p ∈ ending.points, p.state = .success ∧ p.status = .success := by
    rw [List.countP_eq_length]
    simp [CommandPointResult.succeeded]
  rw [← every, ← c.success, ← c.returned]
  constructor
  · rintro ⟨completion, cancelled, returned, success, errors⟩
    exact ⟨completion, cancelled, ⟨returned, errors⟩, success.trans returned.symm⟩
  · rintro ⟨completion, cancelled, ⟨returned, errors⟩, success⟩
    exact ⟨completion, cancelled, returned, success.trans returned, errors⟩

end Ended

/-- A repeated, a missing or a foreign point. -/
def Mismatched (commands : List CommandPoint) (points : List CommandPointResult) : Prop :=
  ¬ (points.map (·.key)).Nodup ∨ (∃ c ∈ commands, requestKey commands c ∉ points.map (·.key)) ∨
    ∃ p ∈ points, p.key ∉ commands.map (requestKey commands)

/-- Results that miss, repeat or add a point do not answer the commands. -/
theorem Mismatched.not_perm {commands : List CommandPoint} {points : List CommandPointResult}
    (distinct : (commands.map (requestKey commands)).Nodup) (bad : Mismatched commands points) :
    ¬ (points.map (·.key)).Perm (commands.map (requestKey commands)) := by
  intro same
  rcases bad with repeated | ⟨c, inside, missing⟩ | ⟨p, inside, foreign⟩
  · exact repeated (same.nodup_iff.mpr distinct)
  · exact missing (same.mem_iff.mpr (List.mem_map_of_mem inside))
  · exact foreign (same.mem_iff.mp (List.mem_map_of_mem inside))

/-- Requests and results are correlated. Each request of an accepted batch has its own key, of the
header it is sent in, and its ordinal under it. Whatever the stack returns, and in whatever order its
callbacks come, the call reports success of all points exactly when the task succeeded and its results
are the requested points in some order, all of them successful; repeated, missing or foreign points are
reported as uncertain, and so is a started task that timed out, failed or was cancelled. -/
theorem command_correlation (format : NumberFormat) (platform : Platform) {params : Json} {config : CommandConfig}
    (accepted : parseCommandConfig params = .ok config) :
    Correlates format config.commands (buildCommandSet format config) ∧
    ∀ taskId selectBeforeOperate submitted trace y y' a result,
      (start format config taskId selectBeforeOperate submitted).runs platform trace = some y →
      y.step platform a = some y' → (∀ r, y.phase ≠ .returned r) → y'.phase = .returned result →
      (∀ now, a = .report now → (ReportsAllSuccess result ↔ ∃ points,
        (CommandLog.of trace).ending = some ⟨.success, points, false⟩ ∧
        (points.map (·.key)).Perm (config.commands.map (requestKey config.commands)) ∧
        ∀ p ∈ points, p.state = .success ∧ p.status = .success)) ∧
      (∀ now message, a = .rejected now message → Uncertain result ∧ ¬ ReportsAllSuccess result) ∧
      (∀ points, (CommandLog.of trace).ending = some ⟨.success, points, false⟩ → Mismatched config.commands points →
        Uncertain result) ∧
      ((CommandLog.of trace).started = true → ((CommandLog.of trace).Failed ∨ ∀ r, result ≠ .ok r) → Uncertain result) := by
  have correlates := buildCommandSet_correlates format (parseCommandConfig_valid accepted)
  refine ⟨correlates, fun taskId selectBeforeOperate submitted trace y y' a result run last before returned => ?_⟩
  have told := told_runs told_start run
  rcases step_returned last before returned with ⟨now, rfl, rfl⟩ | ⟨now, message, rfl, rfl⟩
  · refine ⟨fun _ _ => ?_, nofun, fun points ended bad => ?_, fun started failed => ?_⟩
    · cases ended : (CommandLog.of trace).ending with
      | none =>
        have running : y.op.done = false := by rw [told.done, ended]; rfl
        simp [(CommandOperation.outcome_running running).2]
      | some ending =>
        have counted := told.counted ended correlates rfl rfl
        rw [CommandOperation.reports_iff counted.done counted.completion, counted.allSuccess_iff]
        constructor
        · rintro ⟨completion, cancelled, same, all⟩
          exact ⟨ending.points, by rw [← completion, ← cancelled], same, all⟩
        · rintro ⟨points, same, rest⟩
          obtain rfl := Option.some.inj same
          exact ⟨rfl, rfl, rest⟩
    · have counted := told.counted ended correlates rfl rfl
      have apart := bad.not_perm correlates.distinct
      rcases @CommandOperation.outcome_done platform now y.op _ counted.done counted.completion with
        ⟨failed, -⟩ | ⟨-, -, e, failed, uncertain, -⟩ | ⟨-, length, errors, -⟩
      · simp [CommandOperation.taskFailed, counted.cancelled] at failed
      · rw [failed]
        exact uncertain
      · exact absurd (counted.perm_iff.mp ⟨length, errors⟩) apart
    · cases ended : (CommandLog.of trace).ending with
      | none =>
        have running : y.op.done = false := by rw [told.done, ended]; rfl
        exact (CommandOperation.outcome_running running).1
      | some ending =>
        have counted := told.counted ended correlates rfl rfl
        rcases @CommandOperation.outcome_done platform now y.op _ counted.done counted.completion with
          ⟨taskFailed, e, error, uncertain, still, -⟩ | ⟨-, -, e, error, uncertain, -⟩ | ⟨succeeded, -, -, ok⟩
        · have marked : y.op.executionUncertain ending.completion = true := by
            simp [CommandOperation.executionUncertain, taskFailed, told.started, started]
          rw [marked] at uncertain still
          exact ⟨e, error, uncertain, still⟩
        · rw [error]
          exact uncertain
        · rcases failed with failed | failed
          · have clean : y.op.taskFailed ending.completion = true := by
              rcases failed ending ended with other | cancelled
              · simp [CommandOperation.taskFailed, other]
              · simp [CommandOperation.taskFailed, counted.cancelled, cancelled]
            rw [clean] at succeeded
            cases succeeded
          · exact absurd ok (failed _)
  · have rejected := rejection_uncertain message y.op
    exact ⟨nofun, fun _ _ _ => rejected, fun _ _ _ => rejected.1, fun _ _ => rejected.1⟩

/-- Two relay outputs and an analog output, in mixed order. -/
def exampleCommandParams : Json :=
  .object [("safety_token", .str "0123456789abcdef0123456789ABCDEF"), ("commands", .arr
    [.object [("type", .str "analog_output_int16"), ("index", .nat 7), ("value", .int (-5))],
     .object [("type", .str "crob"), ("index", .nat 3), ("operation", .str "latch_on")],
     .object [("type", .str "crob"), ("index", .nat 7), ("operation", .str "pulse_on"), ("count", .nat 2)]])]

/-- An analog output and two relay outputs. -/
def exampleCommandConfig : CommandConfig where
  safetyToken := text "0123456789abcdef0123456789ABCDEF"
  commands :=
    [{ kind := .analogOutputInt16, index := .ofNat 7, integerValue := -5 }, { index := .ofNat 3 },
     { index := .ofNat 7, crobOperation := .pulseOn, count := 2 }]

def exampleFormat : NumberFormat where
  double _ := ⟨false, 0, [0], none, FloatLit.zero_isFloat⟩
  single _ := ⟨false, 0, [0], none, FloatLit.zero_isFloat⟩

/-- The results come back in another order. -/
def exampleResults : List CommandPointResult :=
  [⟨1, .ofNat 7, .success, .success⟩, ⟨0, .ofNat 7, .success, .success⟩, ⟨0, .ofNat 3, .success, .success⟩]

/-- A select before operate with three results, all of them successful. -/
theorem command_correlation_example : ∃ y y' result,
    (start exampleFormat exampleCommandConfig 1 true 10).runs examplePlatform
      [.submitted, .onStart 11, .result 12 .success exampleResults] = some y ∧
    y.step examplePlatform (.report 13) = some y' ∧
    y'.phase = .returned result ∧ ReportsAllSuccess result := by
  have accepted : parseCommandConfig exampleCommandParams = .ok exampleCommandConfig := by decide +kernel
  have returned : ∃ y y' result,
      (start exampleFormat exampleCommandConfig 1 true 10).runs examplePlatform
        [.submitted, .onStart 11, .result 12 .success exampleResults] = some y ∧
      y.step examplePlatform (.report 13) = some y' ∧ (∀ r, y.phase ≠ .returned r) ∧ y'.phase = .returned result :=
    ⟨_, _, _, rfl, rfl, nofun, rfl⟩
  obtain ⟨y, y', result, run, last, before, returned⟩ := returned
  refine ⟨y, y', result, run, last, returned, ?_⟩
  have reports := (((command_correlation _ _ accepted).2 _ _ _ _ _ _ _ _ run last before returned).1 13 rfl).mpr
  exact reports ⟨exampleResults, by decide +kernel, by decide +kernel, by decide +kernel⟩

end CommandCall

end EmsDnp3.Native
