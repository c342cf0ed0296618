import EmsDnp3.Native.ReadOperation

/-!
# One call of a read task

`Impl::execute` from the moment its task is active, with everything that can happen around it:
the callbacks of the stack, the indications of other responses, a cancel, and the phases of the
calling thread. The stack is one thread, so it calls nothing else between the two critical
sections of `OnReceiveIIN`; every other pair of threads may interleave in any order.
-/

namespace EmsDnp3.Native

/-- Where the calling thread stands. -/
inductive ReadPhase where
  | submitting
  | waiting
  | woken
  | looked (window : IinStore.Window)
  | returned (result : BackendOperationResult)

/-- `midIin`: the stack has recorded an indication and not yet passed the gate. `gated`: the
completion gate holds this task. -/
structure ReadCall where
  iin : IinStore
  midIin : Bool
  receiveSequence : Nat
  op : ReadOperation
  gated : Bool := true
  phase : ReadPhase := .submitting

/-- What can happen to a read: the callbacks of OpenDNP3, the indications and the caller's own steps. -/
inductive ReadAction where
  | onStart (now : Nat)
  | onComplete (now : Nat) (completion : TaskCompletion)
  | onDestroyed (now : Nat)
  | iinRecord (now : Nat) (value : IinField)
  | iinProcessed (now : Nat)
  | beginFragment (now : Nat) (info : ResponseInfo)
  | endFragment (now : Nat)
  | record (now : Nat) (info : HeaderInfo) (item : SoeItem)
  -- another task takes a receive sequence, or the gate
  | otherRecord
  | ungate
  | cancel (now : Nat)
  | submitted
  | rejected (now : Nat) (message : Option String)
  | wake
  | look
  | report (now : Nat)
deriving DecidableEq

namespace ReadCall

/-- A callback of the stack that is not in the middle of another. -/
def callback (f : ReadOperation → ReadOperation) (y : ReadCall) : Option ReadCall :=
  if y.midIin then none else some { y with op := f y.op }

/-- The reply where the submission threw. -/
def rejection (message : Option String) (op : ReadOperation) : BackendOperationResult :=
  .error { code := .internalError, message := "OpenDNP3 rejected the read task submission"
           details := .object <| ("task_id", .nat op.taskId) ::
             match message with
             | some what => [("backend_message", .str what)]
             | none => [] }

/-- One critical section; `none` where its thread is not at that point. -/
def step (platform : Platform) (y : ReadCall) : ReadAction → Option ReadCall
  | .onStart now => y.callback (·.markStarted now)
  | .onComplete now completion => y.callback (·.markComplete now completion)
  | .onDestroyed now => y.callback (·.markDestroyed now)
  | .iinRecord now value => if y.midIin then none else some { y with iin := y.iin.record now value, midIin := true }
  | .iinProcessed now =>
    if y.midIin then
      some { y with midIin := false, op := if y.gated then y.op.finalizeResponseAfterIin now else y.op }
    else none
  | .beginFragment now info => y.callback fun op => (op.beginFragment now info).1
  | .endFragment now => y.callback (·.endFragment now)
  | .record now info item =>
    (y.callback fun op => (op.record (y.receiveSequence + 1) now info item.reading).1).map fun y =>
      { y with receiveSequence := y.receiveSequence + 1 }
  | .otherRecord => some { y with receiveSequence := y.receiveSequence + 1 }
  | .ungate => some { y with gated := false }
  | .cancel now => some { y with op := y.op.cancel now }
  | .submitted =>
    match y.phase with
    | .submitting => some { y with phase := .waiting }
    | _ => none
  | .rejected now message =>
    match y.phase with
    | .submitting => some { y with op := y.op.cancel now, gated := false, phase := .returned (rejection message y.op) }
    | _ => none
  | .wake =>
    match y.phase with
    | .waiting => some { y with op := y.op.waitEnded, phase := .woken }
    | _ => none
  | .look =>
    match y.phase with
    | .woken => some { y with phase := .looked (y.iin.after y.op.iinStartSequence) }
    | _ => none
  | .report now =>
    match y.phase with
    | .looked window =>
      some { y with
        phase := .returned (y.op.outcome platform now window), gated := if y.op.done then false else y.gated }
    | _ => none

/-- A run of a call; `none` where an action was not possible. -/
def runs (platform : Platform) (y : ReadCall) (actions : List ReadAction) : Option ReadCall :=
  actions.foldlM (step platform) y

/-- The call at the moment its task becomes active: the observations so far, the receive
sequence and the place of the stack thread are whatever they are. -/
def start (before : List (Nat × IinField)) (midIin : Bool) (receiveSequence taskId submitted : Nat) (options : ReadOptions)
    (hasCapture : Bool) : ReadCall :=
  let iin := before.foldl (fun s o => s.record o.1 o.2) ({} : IinStore)
  { iin, midIin, receiveSequence
    op := { taskId, options, iinStartSequence := iin.lastSequence, submittedMonotonicNs := submitted, hasCapture } }

theorem runs_append (platform : Platform) (y : ReadCall) (first second : List ReadAction) :
    y.runs platform (first ++ second) = (y.runs platform first).bind fun y => y.runs platform second := by
  simp [runs, List.foldlM_append]

end ReadCall

/-! ## What the actions say -/

/-- The indications recorded in a run. -/
def indications (trace : List ReadAction) : List (Nat × IinField) :=
  trace.filterMap fun
    | .iinRecord now value => some (now, value)
    | _ => none

/-- The fragments begun, the source of the last, the receive sequence, and the measurements. -/
structure ReadLog where
  sequence : Nat
  fragments : Nat := 0
  unsolicited : Bool := false
  recorded : List Json := []

/-- What an action adds to the log. -/
def ReadLog.step (l : ReadLog) : ReadAction → ReadLog
  | .beginFragment _ info => { l with fragments := l.fragments + 1, unsolicited := info.unsolicited }
  | .record now info item =>
    { l with
      sequence := l.sequence + 1
      recorded := l.recorded ++
        [ReadOperation.measurementJson (l.sequence + 1) now info item.reading l.unsolicited (l.fragments - 1)] }
  | .otherRecord => { l with sequence := l.sequence + 1 }
  | _ => l

def ReadLog.of (sequence : Nat) (trace : List ReadAction) : ReadLog := trace.foldl step { sequence }

/-- The completion of a successful response, then an indication recorded and passed through the
gate, then `further`. -/
def Released (trace further : List ReadAction) : Prop :=
  ∃ completed recorded value processed, List.Sublist
    ([.onComplete completed .success, .iinRecord recorded value, .iinProcessed processed] ++ further) trace

theorem Released.append {trace further : List ReadAction} (released : Released trace further) (more : List ReadAction) :
    Released (trace ++ more) further := by
  obtain ⟨_, _, _, _, sub⟩ := released
  exact ⟨_, _, _, _, sub.trans (List.sublist_append_left _ _)⟩

/-- What was released stays so while the run goes on. -/
theorem Released.concat {trace further : List ReadAction} (released : Released trace further) (a : ReadAction) :
    Released (trace ++ [a]) (further ++ [a]) := by
  obtain ⟨completed, recorded, value, processed, sub⟩ := released
  refine ⟨completed, recorded, value, processed, ?_⟩
  rw [← List.append_assoc]
  exact sub.append (List.Sublist.refl _)

/-! ## Completion -/

/-- What decides the outcome of a task. -/
structure ReadControl where
  done : Bool
  pending : Option TaskCompletion
  completion : Option TaskCompletion
  waitTimedOut : Bool

/-- What of an operation decides its completion. -/
def ReadOperation.control (op : ReadOperation) : ReadControl :=
  ⟨op.done, op.pendingCompletion, op.completion, op.waitTimedOut⟩

namespace ReadOperation

variable {op : ReadOperation} {now : Nat}

@[simp] theorem control_finalizeLocked (completion : TaskCompletion) :
    (op.finalizeLocked now completion).control = ⟨true, op.pendingCompletion, some completion, op.waitTimedOut⟩ := rfl

@[simp] theorem control_markStarted : (op.markStarted now).control = op.control := by
  unfold markStarted
  split <;> rfl

/-- A response is only pending; any other completion is final. -/
theorem control_markComplete (completion : TaskCompletion) :
    (op.markComplete now completion).control =
      if op.done then op.control
      else if completion = .success ∨ completion = .failureBadResponse then
        ⟨false, some completion, op.completion, op.waitTimedOut⟩
      else ⟨true, some completion, some completion, op.waitTimedOut⟩ := by
  unfold markComplete
  by_cases done : op.done = true
  · rw [if_pos done, if_pos done]
  · rw [if_neg done, if_neg done]
    dsimp only
    by_cases response : completion = .success ∨ completion = .failureBadResponse
    · rw [if_neg (by tauto), if_pos response, control]
      simp [done]
    · rw [if_pos (by tauto), if_neg response]
      rfl

/-- A pending completion becomes final. -/
theorem control_finalizeResponseAfterIin :
    (op.finalizeResponseAfterIin now).control = op.control ∨
      (op.done = false ∧ ∃ pending, op.pendingCompletion = some pending ∧
        (op.finalizeResponseAfterIin now).control = ⟨true, some pending, some pending, op.waitTimedOut⟩) := by
  unfold finalizeResponseAfterIin
  split
  · next pending running waiting =>
    exact .inr ⟨running, pending, waiting, by rw [control_finalizeLocked, waiting]⟩
  · exact .inl rfl

/-- A destroyed task without a pending completion has failed. -/
theorem control_markDestroyed :
    (op.markDestroyed now).control =
      if op.done = false ∧ op.pendingCompletion = none then ⟨true, none, some .failureNoComms, op.waitTimedOut⟩
      else op.control := by
  unfold markDestroyed
  dsimp only
  by_cases lost : op.done = false ∧ op.pendingCompletion = none
  · rw [if_pos (by simpa using lost), if_pos lost, control_finalizeLocked, lost.2]
  · rw [if_neg (by simpa using lost), if_neg lost]
    rfl

/-- A cancelled task has failed. -/
theorem control_cancel :
    (op.cancel now).control =
      if op.done then op.control else ⟨true, none, some .failureNoComms, op.waitTimedOut⟩ := by
  unfold cancel
  dsimp only
  cases done : op.done with
  | true => simp [control, done]
  | false => simp

@[simp] theorem control_beginFragment (info : ResponseInfo) : (op.beginFragment now info).1.control = op.control := by
  unfold beginFragment
  dsimp only
  split <;> rfl

@[simp] theorem control_endFragment : (op.endFragment now).control = op.control := by
  unfold endFragment
  dsimp only
  split <;> rfl

@[simp] theorem control_record (sequence : Nat) (info : HeaderInfo) (r : Reading) :
    (op.record sequence now info r).1.control = op.control := by
  unfold record
  dsimp only
  split
  · rfl
  · split <;> rfl

/-- The operation ended here, and not with a success. -/
def FailsTo (o p : ReadOperation) : Prop :=
  o.done = false ∧ ∃ pending c, c ≠ .success ∧ pending ≠ some .success ∧
    p.control = ⟨true, pending, some c, o.waitTimedOut⟩

/-- A completion that waits for no indication ends a running operation, a success is held back. -/
theorem markComplete_outcome (completion : TaskCompletion) :
    (op.markComplete now completion).control = op.control ∨
      (op.done = false ∧ (op.markComplete now completion).control =
        ⟨false, some completion, op.completion, op.waitTimedOut⟩) ∨
      op.FailsTo (op.markComplete now completion) := by
  have control := @control_markComplete op now completion
  by_cases done : op.done = true
  · rw [if_pos done] at control
    exact .inl control
  have running : op.done = false := by simpa using done
  rw [if_neg done] at control
  split at control
  · exact .inr (.inl ⟨running, control⟩)
  · next other =>
    refine .inr (.inr ⟨running, some completion, completion, ?_, ?_, control⟩)
    · intro success
      exact other (.inl success)
    · intro success
      exact other (.inl (Option.some.inj success))

/-- Destroying a task changes nothing or fails it. -/
theorem markDestroyed_outcome :
    (op.markDestroyed now).control = op.control ∨ op.FailsTo (op.markDestroyed now) := by
  have control := @control_markDestroyed op now
  split at control
  · next lost => exact .inr ⟨lost.1, none, .failureNoComms, by simp, by simp, control⟩
  · exact .inl control

/-- Cancelling a task changes nothing or fails it. -/
theorem cancel_outcome : (op.cancel now).control = op.control ∨ op.FailsTo (op.cancel now) := by
  have control := @control_cancel op now
  split at control
  · exact .inl control
  · next running => exact .inr ⟨by simpa using running, none, .failureNoComms, by simp, by simp, control⟩

end ReadOperation

namespace ReadCall

variable {platform : Platform} {y y' : ReadCall} {a : ReadAction} {trace : List ReadAction}

/-- A callback is possible outside the IIN section and only changes the operation. -/
theorem callback_some {f : ReadOperation → ReadOperation} (run : y.callback f = some y') :
    y.midIin = false ∧ y' = { y with op := f y.op } := by
  unfold callback at run
  split at run
  · cases run
  · next free => exact ⟨by simpa using free, (Option.some.inj run).symm⟩

/-- The indication behind a held success ends the operation with it. -/
theorem iinProcessed_outcome {now : Nat} (run : y.step platform (.iinProcessed now) = some y') :
    y'.op.control = y.op.control ∨
      (y.op.done = false ∧ y.midIin = true ∧ ∃ time c, ReadAction.iinProcessed now = .iinProcessed time ∧
        y.op.pendingCompletion = some c ∧ y'.op.control = ⟨true, some c, some c, y.op.waitTimedOut⟩) := by
  simp only [step] at run
  split at run
  · next busy =>
    obtain rfl := Option.some.inj run
    by_cases gated : y.gated = true
    · simp only [gated, if_true]
      rcases @ReadOperation.control_finalizeResponseAfterIin y.op now with same | ⟨running, pending, waiting, control⟩
      · exact .inl same
      · exact .inr ⟨running, busy, now, pending, rfl, waiting, control⟩
    · simp only [gated]
      exact .inl rfl
  · cases run

/-- What one step can do to the outcome of the task. -/
theorem step_control (run : y.step platform a = some y') :
    y'.op.control = y.op.control ∨
    (y.op.done = false ∧ y.midIin = false ∧ y'.midIin = false ∧ ∃ now c, a = .onComplete now c ∧
      y'.op.control = ⟨false, some c, y.op.completion, y.op.waitTimedOut⟩) ∨
    y.op.FailsTo y'.op ∨
    (y.op.done = false ∧ y.midIin = true ∧ ∃ now c, a = .iinProcessed now ∧ y.op.pendingCompletion = some c ∧
      y'.op.control = ⟨true, some c, some c, y.op.waitTimedOut⟩) ∨
    (a = .wake ∧ y'.op.control =
      ⟨y.op.done, y.op.pendingCompletion, y.op.completion, y.op.waitTimedOut || !y.op.done⟩) := by
  cases a with
  | onStart now =>
    obtain ⟨-, rfl⟩ := callback_some run
    exact .inl (by simp)
  | onComplete now completion =>
    obtain ⟨free, rfl⟩ := callback_some run
    rcases @ReadOperation.markComplete_outcome y.op now completion with same | ⟨running, control⟩ | fails
    · exact .inl same
    · exact .inr (.inl ⟨running, free, free, now, completion, rfl, control⟩)
    · exact .inr (.inr (.inl fails))
  | onDestroyed now =>
    obtain ⟨-, rfl⟩ := callback_some run
    rcases @ReadOperation.markDestroyed_outcome y.op now with same | fails
    · exact .inl same
    · exact .inr (.inr (.inl fails))
  | iinRecord now value =>
    simp only [step] at run
    split at run
    · cases run
    · obtain rfl := Option.some.inj run
      exact .inl rfl
  | iinProcessed now =>
    rcases iinProcessed_outcome run with same | finalized
    · exact .inl same
    · exact .inr (.inr (.inr (.inl finalized)))
  | beginFragment now info =>
    have run : y.callback (fun op => (op.beginFragment now info).1) = some y' := run
    obtain ⟨-, rfl⟩ := callback_some run
    exact .inl (by simp)
  | endFragment now =>
    obtain ⟨-, rfl⟩ := callback_some run
    exact .inl (by simp)
  | record now info item =>
    obtain ⟨next_, called, rfl⟩ := Option.map_eq_some_iff.mp run
    obtain ⟨-, rfl⟩ := callback_some called
    exact .inl (by simp)
  | otherRecord | ungate =>
    obtain rfl := Option.some.inj run
    exact .inl rfl
  | cancel now =>
    obtain rfl := Option.some.inj run
    rcases @ReadOperation.cancel_outcome y.op now with same | fails
    · exact .inl same
    · exact .inr (.inr (.inl fails))
  | submitted | look | report now =>
    simp only [step] at run
    split at run
    · obtain rfl := Option.some.inj run
      exact .inl rfl
    · cases run
  | rejected now message =>
    simp only [step] at run
    split at run
    · obtain rfl := Option.some.inj run
      rcases @ReadOperation.cancel_outcome y.op now with same | fails
      · exact .inl same
      · exact .inr (.inr (.inl fails))
    · cases run
  | wake =>
    simp only [step] at run
    split at run
    · obtain rfl := Option.some.inj run
      exact .inr (.inr (.inr (.inr ⟨rfl, rfl⟩)))
    · cases run

/-- The stack enters `OnReceiveIIN` by recording the indication. -/
theorem step_midIin (run : y.step platform a = some y') (busy : y'.midIin = true) :
    y.midIin = true ∨ (∃ now value, a = .iinRecord now value) ∧ y'.op = y.op := by
  cases a with
  | iinRecord now value =>
    simp only [step] at run
    split at run
    · cases run
    · obtain rfl := Option.some.inj run
      exact .inr ⟨⟨now, value, rfl⟩, rfl⟩
  | iinProcessed now =>
    simp only [step] at run
    split at run
    · obtain rfl := Option.some.inj run
      cases busy
    · cases run
  | onStart now =>
    obtain ⟨-, rfl⟩ := callback_some run
    exact .inl busy
  | onComplete now completion =>
    obtain ⟨-, rfl⟩ := callback_some run
    exact .inl busy
  | onDestroyed now =>
    obtain ⟨-, rfl⟩ := callback_some run
    exact .inl busy
  | beginFragment now info =>
    have run : y.callback (fun op => (op.beginFragment now info).1) = some y' := run
    obtain ⟨-, rfl⟩ := callback_some run
    exact .inl busy
  | endFragment now =>
    obtain ⟨-, rfl⟩ := callback_some run
    exact .inl busy
  | record now info item =>
    obtain ⟨next_, called, rfl⟩ := Option.map_eq_some_iff.mp run
    obtain ⟨-, rfl⟩ := callback_some called
    exact .inl busy
  | otherRecord | ungate | cancel now =>
    obtain rfl := Option.some.inj run
    exact .inl busy
  | submitted | rejected now message | wake | look | report now =>
    simp only [step] at run
    split at run
    · obtain rfl := Option.some.inj run
      exact .inl busy
    · cases run

/-- Once done, a task stays done with the same completion. -/
theorem step_done (run : y.step platform a = some y') (done : y.op.done = true) :
    y'.op.done = true ∧ y'.op.completion = y.op.completion ∧ (a ≠ .wake → y'.op.waitTimedOut = y.op.waitTimedOut) := by
  rcases step_control run with same | ⟨running, -⟩ | ⟨running, -⟩ | ⟨running, -⟩ | ⟨rfl, control⟩
  · obtain ⟨done', -, completion, timed⟩ := ReadControl.mk.inj same
    exact ⟨done'.trans done, completion, fun _ => timed⟩
  · simp [done] at running
  · simp [done] at running
  · simp [done] at running
  · obtain ⟨done', -, completion, -⟩ := ReadControl.mk.inj control
    exact ⟨done'.trans done, completion, fun wake => absurd rfl wake⟩

/-- A wait that timed out stays so. -/
theorem step_waitTimedOut (run : y.step platform a = some y') :
    y'.op.waitTimedOut = if a = .wake then y.op.waitTimedOut || !y.op.done else y.op.waitTimedOut := by
  have calling : a = .wake → y'.op.waitTimedOut = (y.op.waitTimedOut || !y.op.done) := by
    rintro rfl
    simp only [step] at run
    split at run
    · obtain rfl := Option.some.inj run
      rfl
    · cases run
  by_cases wake : a = .wake
  · rw [if_pos wake, calling wake]
  · rw [if_neg wake]
    rcases step_control run with same | ⟨-, -, -, _, _, -, control⟩ | ⟨-, _, _, -, -, control⟩ |
      ⟨-, -, _, _, -, -, control⟩ | ⟨here, -⟩
    · exact (ReadControl.mk.inj same).2.2.2
    · exact (ReadControl.mk.inj control).2.2.2
    · exact (ReadControl.mk.inj control).2.2.2
    · exact (ReadControl.mk.inj control).2.2.2
    · exact absurd here wake

/-- How the task stands, told from the actions so far. -/
structure Controlled (y : ReadCall) (trace : List ReadAction) : Prop where
  ended : y.op.done = y.op.completion.isSome
  pending : y.op.pendingCompletion = some .success → ∃ t, List.Sublist [.onComplete t .success] trace
  recording : y.midIin = true → y.op.pendingCompletion = some .success →
    ∃ t t' v, List.Sublist [.onComplete t .success, .iinRecord t' v] trace
  released : y.op.completion = some .success → Released trace []

/-- Every step keeps the completion to the callbacks that were made. -/
theorem Controlled.step (c : Controlled y trace) (run : y.step platform a = some y') : Controlled y' (trace ++ [a]) := by
  have more : ∀ {l : List ReadAction}, l.Sublist trace → l.Sublist (trace ++ [a]) :=
    fun sub => sub.trans (List.sublist_append_left _ _)
  have keep : y.op.completion = y'.op.completion → y'.op.completion = some .success → Released (trace ++ [a]) [] :=
    fun same success => (c.released (same.trans success)).append [a]
  rcases step_control run with same | ⟨running, -, free, now, completion, rfl, control⟩ |
    ⟨running, pending, completion, failed, other, control⟩ | ⟨running, busy, now, completion, rfl, waiting, control⟩ |
    ⟨rfl, control⟩
  · obtain ⟨done, pending, completion, -⟩ := ReadControl.mk.inj same
    refine ⟨?_, ?_, ?_, keep completion.symm⟩
    · rw [show y'.op.done = _ from done, show y'.op.completion = _ from completion, c.ended]
    · intro success
      obtain ⟨t, sub⟩ := c.pending (pending.symm.trans success)
      exact ⟨t, more sub⟩
    · intro busy success
      have waiting : y.op.pendingCompletion = some .success := pending.symm.trans success
      rcases step_midIin run busy with before | ⟨⟨now, value, rfl⟩, -⟩
      · obtain ⟨t, t', v, sub⟩ := c.recording before waiting
        exact ⟨t, t', v, more sub⟩
      · obtain ⟨t, sub⟩ := c.pending waiting
        exact ⟨t, now, value, sub.append (List.Sublist.refl _)⟩
  · obtain ⟨done, pending, completion_, -⟩ := ReadControl.mk.inj control
    refine ⟨?_, ?_, ?_, keep completion_.symm⟩
    · rw [show y'.op.done = _ from done, show y'.op.completion = _ from completion_, ← c.ended, running]
    · intro success
      obtain rfl := Option.some.inj (pending.symm.trans success)
      exact ⟨now, List.sublist_append_right _ _⟩
    · intro busy
      simp [free] at busy
  · obtain ⟨done, pending_, completion_, -⟩ := ReadControl.mk.inj control
    refine ⟨?_, ?_, ?_, ?_⟩
    · rw [show y'.op.done = _ from done, show y'.op.completion = _ from completion_]
      rfl
    · exact fun success => absurd (pending_.symm.trans success) other
    · exact fun _ success => absurd (pending_.symm.trans success) other
    · exact fun success => absurd (Option.some.inj (completion_.symm.trans success)) failed
  · obtain ⟨done, pending, completion_, -⟩ := ReadControl.mk.inj control
    have idle : y'.midIin = false := by
      by_contra busy'
      rcases Bool.eq_false_or_eq_true y'.midIin with busy' | idle
      · simp only [ReadCall.step, busy, if_true] at run
        obtain rfl := Option.some.inj run
        cases busy'
      · exact busy' idle
    refine ⟨?_, ?_, ?_, ?_⟩
    · rw [show y'.op.done = _ from done, show y'.op.completion = _ from completion_]
      rfl
    · intro success
      obtain ⟨t, sub⟩ := c.pending (waiting.trans (pending.symm.trans success))
      exact ⟨t, more sub⟩
    · intro busy'
      simp [idle] at busy'
    · intro success
      obtain ⟨t, t', v, sub⟩ := c.recording busy (waiting.trans (completion_.symm.trans success))
      exact ⟨t, t', v, now, sub.append (List.Sublist.refl _)⟩
  · obtain ⟨done, pending, completion, -⟩ := ReadControl.mk.inj control
    refine ⟨?_, ?_, ?_, keep completion.symm⟩
    · rw [show y'.op.done = _ from done, show y'.op.completion = _ from completion, c.ended]
    · intro success
      obtain ⟨t, sub⟩ := c.pending (pending.symm.trans success)
      exact ⟨t, more sub⟩
    · intro busy success
      rcases step_midIin run busy with before | ⟨⟨_, _, other⟩, -⟩
      · obtain ⟨t, t', v, sub⟩ := c.recording before (pending.symm.trans success)
        exact ⟨t, t', v, more sub⟩
      · cases other

end ReadCall

/-! ## Measurements -/

/-- What a task has collected, and what never changes in it. -/
structure ReadData where
  taskId : Nat
  options : ReadOptions
  iinStartSequence : Nat
  fragmentCount : Nat
  currentUnsolicited : Bool
  currentFragmentIndex : Nat
  receivedTotal : Nat
  overflow : Nat
  measurements : List Json
  fragmentsStored : Nat
  fragmentOverflow : Nat

/-- What of an operation the reply shows. -/
def ReadOperation.data (op : ReadOperation) : ReadData :=
  ⟨op.taskId, op.options, op.iinStartSequence, op.fragmentCount, op.currentUnsolicited, op.currentFragmentIndex,
    op.receivedTotal, op.overflow, op.measurements, op.fragments.length, op.fragmentOverflow⟩

namespace ReadOperation

variable {op : ReadOperation} {now : Nat}

@[simp] theorem data_markStarted : (op.markStarted now).data = op.data := by
  unfold markStarted
  split <;> rfl

@[simp] theorem data_markComplete (completion : TaskCompletion) : (op.markComplete now completion).data = op.data := by
  unfold markComplete
  split
  · rfl
  · dsimp only
    split <;> rfl

@[simp] theorem data_markDestroyed : (op.markDestroyed now).data = op.data := by
  unfold markDestroyed
  dsimp only
  split <;> rfl

@[simp] theorem data_finalizeResponseAfterIin : (op.finalizeResponseAfterIin now).data = op.data := by
  unfold finalizeResponseAfterIin
  split <;> rfl

@[simp] theorem data_cancel : (op.cancel now).data = op.data := by
  unfold cancel
  dsimp only
  split <;> rfl

@[simp] theorem data_waitEnded : op.waitEnded.data = op.data := rfl

/-- Ending the last fragment adds none. -/
theorem length_endLast (fragments : List FragmentRecord) : (endLast now fragments).length = fragments.length := by
  induction fragments with
  | nil => rfl
  | cons f rest ih =>
    cases rest with
    | nil => rfl
    | cons g rest => simpa [endLast] using ih

@[simp] theorem data_endFragment : (op.endFragment now).data = op.data := by
  unfold endFragment
  dsimp only
  split
  · simp [data, length_endLast]
  · rfl

/-- A fragment is counted. -/
theorem data_beginFragment (info : ResponseInfo) :
    (op.beginFragment now info).1.data = { op.data with
      fragmentCount := op.fragmentCount + 1, currentUnsolicited := info.unsolicited
      currentFragmentIndex := op.fragmentCount
      fragmentsStored := if op.fragments.length < kFragmentRecordCapacity then op.fragments.length + 1 else op.fragments.length
      fragmentOverflow :=
        if op.fragments.length < kFragmentRecordCapacity then op.fragmentOverflow else op.fragmentOverflow + 1 } := by
  unfold beginFragment
  dsimp only
  by_cases room : op.fragments.length < kFragmentRecordCapacity <;> simp [room, data]

/-- A measurement is counted, and kept while there is room. -/
theorem data_record (sequence : Nat) (info : HeaderInfo) (r : Reading) :
    (op.record sequence now info r).1.data = { op.data with
      receivedTotal := op.receivedTotal + 1
      overflow := if op.options.maxMeasurements < op.receivedTotal + 1 then op.overflow + 1 else op.overflow
      measurements :=
        if op.options.maxMeasurements < op.receivedTotal + 1 ∨ op.options.returnMode = .summary then op.measurements
        else op.measurements ++
          [measurementJson sequence now info r op.currentUnsolicited op.currentFragmentIndex] } := by
  unfold record
  dsimp only
  by_cases full : op.options.maxMeasurements < op.receivedTotal + 1
  · simp [full, data]
  · by_cases summary : op.options.returnMode = .summary <;> simp [full, summary, data]

end ReadOperation

namespace ReadCall

variable {platform : Platform} {y y' : ReadCall} {a : ReadAction} {trace : List ReadAction} {l : ReadLog}

/-- What the task has collected is what the log says. -/
structure Logged (y : ReadCall) (l : ReadLog) : Prop where
  sequence : y.receiveSequence = l.sequence
  fragments : y.op.fragmentCount = l.fragments
  source : y.op.currentUnsolicited = l.unsolicited
  index : y.op.currentFragmentIndex = l.fragments - 1
  total : y.op.receivedTotal = l.recorded.length
  overflow : y.op.overflow = l.recorded.length - y.op.options.maxMeasurements
  detail : y.op.options.returnMode = .detail → y.op.measurements = l.recorded.take y.op.options.maxMeasurements
  summary : y.op.options.returnMode = .summary → y.op.measurements = []
  stored : y.op.fragments.length = min l.fragments kFragmentRecordCapacity
  lost : y.op.fragmentOverflow = l.fragments - kFragmentRecordCapacity

/-- What the task has collected after an action. -/
def collects (y : ReadCall) : ReadAction → ReadData
  | .beginFragment now info => (y.op.beginFragment now info).1.data
  | .record now info item => (y.op.record (y.receiveSequence + 1) now info item.reading).1.data
  | _ => y.op.data

/-- What a step adds to the data is what it adds to the log. -/
theorem step_data (run : y.step platform a = some y') :
    y'.receiveSequence = (ReadLog.step ⟨y.receiveSequence, 0, false, []⟩ a).sequence ∧ y'.op.data = y.collects a := by
  cases a with
  | onStart now =>
    obtain ⟨-, rfl⟩ := callback_some run
    exact ⟨rfl, by simp [collects]⟩
  | onComplete now completion =>
    obtain ⟨-, rfl⟩ := callback_some run
    exact ⟨rfl, by simp [collects]⟩
  | onDestroyed now =>
    obtain ⟨-, rfl⟩ := callback_some run
    exact ⟨rfl, by simp [collects]⟩
  | iinRecord now value =>
    simp only [step] at run
    split at run
    · cases run
    · obtain rfl := Option.some.inj run
      exact ⟨rfl, rfl⟩
  | iinProcessed now =>
    simp only [step] at run
    split at run
    · obtain rfl := Option.some.inj run
      refine ⟨rfl, ?_⟩
      dsimp only [collects]
      split <;> simp
    · cases run
  | beginFragment now info =>
    have run : y.callback (fun op => (op.beginFragment now info).1) = some y' := run
    obtain ⟨-, rfl⟩ := callback_some run
    exact ⟨rfl, rfl⟩
  | endFragment now =>
    obtain ⟨-, rfl⟩ := callback_some run
    exact ⟨rfl, by simp [collects]⟩
  | record now info item =>
    obtain ⟨next_, called, rfl⟩ := Option.map_eq_some_iff.mp run
    obtain ⟨-, rfl⟩ := callback_some called
    exact ⟨rfl, rfl⟩
  | otherRecord | ungate =>
    obtain rfl := Option.some.inj run
    exact ⟨rfl, rfl⟩
  | cancel now =>
    obtain rfl := Option.some.inj run
    exact ⟨rfl, by simp [collects]⟩
  | submitted | wake | look | report now =>
    simp only [step] at run
    split at run
    · obtain rfl := Option.some.inj run
      exact ⟨rfl, by simp [collects]⟩
    · cases run
  | rejected now message =>
    simp only [step] at run
    split at run
    · obtain rfl := Option.some.inj run
      exact ⟨rfl, by simp [collects]⟩
    · cases run

/-- Logged data, from the data alone. -/
theorem logged_of_data {l : ReadLog} (sequence : y.receiveSequence = l.sequence) {d : ReadData} (data : y.op.data = d)
    (fragments : d.fragmentCount = l.fragments) (source : d.currentUnsolicited = l.unsolicited)
    (index : d.currentFragmentIndex = l.fragments - 1) (total : d.receivedTotal = l.recorded.length)
    (overflow : d.overflow = l.recorded.length - d.options.maxMeasurements)
    (detail : d.options.returnMode = .detail → d.measurements = l.recorded.take d.options.maxMeasurements)
    (summary : d.options.returnMode = .summary → d.measurements = [])
    (stored : d.fragmentsStored = min l.fragments kFragmentRecordCapacity)
    (lost : d.fragmentOverflow = l.fragments - kFragmentRecordCapacity) : Logged y l := by
  obtain rfl := data
  exact ⟨sequence, fragments, source, index, total, overflow, detail, summary, stored, lost⟩

/-- Every step keeps the data equal to the log's. -/
theorem Logged.step (g : Logged y l) (run : y.step platform a = some y') : Logged y' (l.step a) := by
  obtain ⟨sequence, data⟩ := step_data run
  have counted : ∀ {b : ReadAction}, (ReadLog.step ⟨y.receiveSequence, 0, false, []⟩ b).sequence = (l.step b).sequence := by
    intro b
    cases b <;> simp [ReadLog.step, g.sequence]
  have sequence := sequence.trans counted
  -- an action that collects nothing
  have same : y.collects a = y.op.data → l.step a = { l with sequence := (l.step a).sequence } → Logged y' (l.step a) := by
    intro unchanged kept
    rw [kept]
    exact logged_of_data sequence (data.trans unchanged) g.fragments g.source g.index g.total g.overflow g.detail
      g.summary g.stored g.lost
  cases a with
  | beginFragment now info =>
    have stored := g.stored
    have lost := g.lost
    refine logged_of_data sequence (data.trans (ReadOperation.data_beginFragment info)) ?_ rfl ?_ g.total g.overflow
      g.detail g.summary ?_ ?_
    · simp [ReadLog.step, g.fragments]
    · simp [ReadLog.step, g.fragments]
    · simp only [ReadLog.step]
      split <;> omega
    · simp only [ReadLog.step]
      split <;> omega
  | record now info item =>
    have total := g.total
    have overflow := g.overflow
    refine logged_of_data sequence (data.trans (ReadOperation.data_record _ info item.reading)) g.fragments g.source g.index
      ?_ ?_ ?_ ?_ g.stored g.lost
    · simp [ReadLog.step, total]
    · simp only [ReadLog.step, List.length_append, List.length_singleton, ReadOperation.data]
      split <;> omega
    · intro mode
      have kept := g.detail mode
      have mode : y.op.options.returnMode = .detail := mode
      simp only [ReadLog.step, ReadOperation.data, mode, reduceCtorEq, or_false]
      split
      · rw [List.take_append_of_le_length (by omega)]
        exact kept
      · rw [kept, List.take_of_length_le (show l.recorded.length ≤ _ by omega), List.take_of_length_le, g.sequence, g.source,
          g.index]
        simp only [List.length_append, List.length_singleton]
        omega
    · intro mode
      have kept := g.summary mode
      have mode : y.op.options.returnMode = .summary := mode
      simp only [mode, or_true, if_true]
      exact kept
  | onStart | onComplete | onDestroyed | iinRecord | iinProcessed | endFragment | otherRecord | ungate | cancel | submitted |
    rejected | wake | look | report => exact same rfl rfl

end ReadCall

end EmsDnp3.Native
