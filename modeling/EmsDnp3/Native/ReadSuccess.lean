import EmsDnp3.Native.ReadTask

/-!
# What a successful read says

The window of indications that a call sees, the phases of its thread, and from these what a
result means: the whole response was collected, none of it was lost, and the wait did not end
before the task did.
-/

namespace EmsDnp3.Native

/-! ## The window -/

namespace IinStore

/-- The observations of `values`, numbered from `start`. -/
def numbered (start : Nat) : List (Nat × IinField) → List IinObservation
  | [] => []
  | (now, value) :: rest => ⟨start + 1, now, value.lsb, value.msb⟩ :: numbered (start + 1) rest

theorem numbered_length (start : Nat) (values : List (Nat × IinField)) : (numbered start values).length = values.length := by
  induction values generalizing start with
  | nil => rfl
  | cons head rest ih => simp [numbered, ih]

theorem numbered_concat (start now : Nat) (value : IinField) (values : List (Nat × IinField)) :
    numbered start (values ++ [(now, value)]) =
      numbered start values ++ [⟨start + values.length + 1, now, value.lsb, value.msb⟩] := by
  induction values generalizing start with
  | nil => rfl
  | cons head rest ih =>
    simp only [List.cons_append, numbered, ih, List.length_cons]
    congr 4
    omega

def records (values : List (Nat × IinField)) (s : IinStore) : IinStore := values.foldl (fun s o => s.record o.1 o.2) s

theorem records_append (s : IinStore) (first second : List (Nat × IinField)) :
    s.records (first ++ second) = (s.records first).records second := by
  simp [records]

/-- `s` has recorded `values` since its last sequence was `start`; what is left of them is a suffix. -/
structure Since (start : Nat) (values : List (Nat × IinField)) (s : IinStore) : Prop where
  last : s.lastSequence = start + values.length
  kept : ∃ k ≤ values.length, s.observations.filter (fun o => decide (start < o.sequence)) = (numbered start values).drop k

variable {start now : Nat} {value : IinField} {values : List (Nat × IinField)} {s : IinStore}

/-- Dropping the oldest observation drops at most one of the window. -/
theorem filter_tail (p : IinObservation → Bool) (l : List IinObservation) :
    l.tail.filter p = l.filter p ∨ ∃ o, l.filter p = o :: l.tail.filter p := by
  cases l with
  | nil => exact .inl rfl
  | cons o rest =>
    by_cases inside : p o = true
    · exact .inr ⟨o, List.filter_cons_of_pos inside⟩
    · exact .inl (List.filter_cons_of_neg inside).symm

/-- Dropping the oldest observation only shortens the window. -/
theorem Since.tail (known : Since start values s) :
    ∃ k ≤ values.length, s.observations.tail.filter (fun o => decide (start < o.sequence)) = (numbered start values).drop k := by
  obtain ⟨k, bound, kept⟩ := known.kept
  rcases filter_tail (fun o => decide (start < o.sequence)) s.observations with same | ⟨o, head⟩
  · exact ⟨k, bound, same.trans kept⟩
  · rw [kept] at head
    have nonempty : k < values.length := by
      by_contra exhausted
      rw [List.drop_eq_nil_of_le (by rw [numbered_length]; omega)] at head
      cases head
    refine ⟨k + 1, nonempty, ?_⟩
    rw [← List.tail_drop, head, List.tail_cons]

/-- A new observation is in the window. -/
theorem Since.record (known : Since start values s) : Since start (values ++ [(now, value)]) (s.record now value) := by
  have append : ∀ {l : List IinObservation}, (∃ k ≤ values.length,
      l.filter (fun o => decide (start < o.sequence)) = (numbered start values).drop k) →
      ∃ k ≤ (values ++ [(now, value)]).length,
        (l ++ [(⟨s.lastSequence + 1, now, value.lsb, value.msb⟩ : IinObservation)]).filter (fun o => decide (start < o.sequence)) =
          (numbered start (values ++ [(now, value)])).drop k := by
    rintro l ⟨k, bound, kept⟩
    refine ⟨k, by simp; omega, ?_⟩
    have inside : start < start + values.length + 1 := by omega
    rw [List.filter_append, kept, numbered_concat, List.drop_append_of_le_length (by rwa [numbered_length]), known.last,
      List.filter_singleton, decide_eq_true inside]
    rfl
  unfold IinStore.record
  dsimp only
  split
  · refine ⟨?_, append known.tail⟩
    simp [known.last, Nat.add_assoc]
  · refine ⟨?_, append known.kept⟩
    simp [known.last, Nat.add_assoc]

/-- Nothing that is held has a later number than the last one given. -/
def Bounded (s : IinStore) : Prop := ∀ o ∈ s.observations, o.sequence ≤ s.lastSequence

/-- The store stays within its capacity. -/
theorem Bounded.record (bounded : s.Bounded) : (s.record now value).Bounded := by
  have append : ∀ {l : List IinObservation}, (∀ o ∈ l, o.sequence ≤ s.lastSequence) →
      ∀ o ∈ l ++ [(⟨s.lastSequence + 1, now, value.lsb, value.msb⟩ : IinObservation)], o.sequence ≤ s.lastSequence + 1 := by
    intro l held o member
    rcases List.mem_append.mp member with old | new
    · exact (held o old).trans (Nat.le_succ _)
    · rw [List.mem_singleton.mp new]
  unfold IinStore.record
  dsimp only
  split
  · exact append fun o member => bounded o (List.mem_of_mem_tail member)
  · exact append bounded

/-- Each indication has a sequence number of its own. -/
theorem records_last (values : List (Nat × IinField)) (s : IinStore) :
    (s.records values).lastSequence = s.lastSequence + values.length := by
  induction values generalizing s with
  | nil => rfl
  | cons head rest ih =>
    have one : (s.record head.1 head.2).lastSequence = s.lastSequence + 1 := by
      unfold IinStore.record
      dsimp only
      split <;> rfl
    change ((s.record head.1 head.2).records rest).lastSequence = _
    rw [ih, one, List.length_cons]
    omega

theorem records_bounded (bounded : s.Bounded) (values : List (Nat × IinField)) : (s.records values).Bounded := by
  induction values generalizing s with
  | nil => exact bounded
  | cons head rest ih => exact ih bounded.record

/-- What was recorded since a number is a suffix of what arrived behind it. -/
theorem records_since (bounded : s.Bounded) (values : List (Nat × IinField)) :
    Since s.lastSequence values (s.records values) := by
  induction values using List.reverseRecOn with
  | nil =>
    refine ⟨rfl, 0, le_rfl, ?_⟩
    apply List.filter_eq_nil_iff.mpr
    intro o member
    simpa using bounded o member
  | append_singleton values last ih =>
    have step : s.records (values ++ [last]) = (s.records values).record last.1 last.2 := by
      simp [records]
    rw [step]
    exact ih.record

/-- A window of which nothing is lost holds every observation since. -/
theorem Since.window (known : Since start values s) (whole : (s.after start).windowDropped = 0) :
    (s.after start).observations = numbered start values := by
  obtain ⟨k, bound, kept⟩ := known.kept
  have size : ((numbered start values).drop k).length = values.length - k := by
    rw [List.length_drop, numbered_length]
  have none : k = 0 := by
    unfold after at whole
    dsimp only at whole
    rw [kept, size, known.last, if_pos (Nat.le_add_right _ _)] at whole
    split at whole <;> omega
  unfold after
  dsimp only
  rw [kept, none, List.drop_zero]

end IinStore

/-! ## The outcome -/

/-- A successful reply: the task completed, in time, and nothing overflowed. -/
theorem ReadOperation.outcome_ok {platform : Platform} {now : Nat} {window : IinStore.Window} {op : ReadOperation} {r : Json}
    (ok : op.outcome platform now window = .ok r) :
    op.completion = some .success ∧ op.waitTimedOut = false ∧ op.done = true ∧ op.overflow = 0 ∧ op.fragmentOverflow = 0 ∧
      window.windowDropped = 0 ∧ r = op.resultJson platform now window .success := by
  unfold outcome at ok
  split at ok
  · cases ok
  · next completion ended =>
    split at ok
    · cases ok
    · next waited =>
      dsimp only at ok
      split at ok
      · cases ok
      · next whole =>
        split at ok
        · next success =>
          subst success
          simp only [Bool.or_eq_true, Bool.not_eq_true', not_or, Bool.not_eq_true, Bool.not_eq_false] at waited
          simp only [not_or, Nat.not_lt, Nat.le_zero] at whole
          exact ⟨ended, waited.1, waited.2, whole.1, whole.2.1, whole.2.2, (Except.ok.inj ok).symm⟩
        · cases ok

namespace ReadCall

variable {platform : Platform} {y y' z : ReadCall} {a : ReadAction} {trace more : List ReadAction}

/-! ## The calling thread -/

/-- Where the calling thread can go. -/
theorem step_phase (run : y.step platform a = some y') :
    (y'.phase = y.phase ∧ a ≠ .wake) ∨
    (y.phase = .submitting ∧ y'.phase = .waiting ∧ a = .submitted) ∨
    (∃ message, y'.phase = .returned (rejection message y.op)) ∨
    (y.phase = .waiting ∧ y'.phase = .woken ∧ a = .wake) ∨
    (y.phase = .woken ∧ y'.phase = .looked (y.iin.after y.op.iinStartSequence) ∧ y'.op = y.op ∧ a = .look) ∨
    (∃ window now, y.phase = .looked window ∧ y'.phase = .returned (y.op.outcome platform now window) ∧ y'.op = y.op ∧
      a = .report now) := by
  cases a with
  | onStart | onComplete | onDestroyed | beginFragment | endFragment =>
    obtain ⟨-, rfl⟩ := callback_some (by simpa only [step] using run)
    exact .inl ⟨rfl, by simp⟩
  | iinRecord =>
    simp only [step] at run
    split at run
    · cases run
    · obtain rfl := Option.some.inj run
      exact .inl ⟨rfl, by simp⟩
  | iinProcessed =>
    simp only [step] at run
    split at run
    · obtain rfl := Option.some.inj run
      exact .inl ⟨rfl, by simp⟩
    · cases run
  | record =>
    obtain ⟨next_, called, rfl⟩ := Option.map_eq_some_iff.mp run
    obtain ⟨-, rfl⟩ := callback_some called
    exact .inl ⟨rfl, by simp⟩
  | otherRecord | ungate | cancel =>
    obtain rfl := Option.some.inj run
    exact .inl ⟨rfl, by simp⟩
  | submitted =>
    simp only [step] at run
    split at run
    · next here =>
      obtain rfl := Option.some.inj run
      exact .inr (.inl ⟨here, rfl, rfl⟩)
    · cases run
  | rejected now message =>
    simp only [step] at run
    split at run
    · obtain rfl := Option.some.inj run
      exact .inr (.inr (.inl ⟨message, rfl⟩))
    · cases run
  | wake =>
    simp only [step] at run
    split at run
    · next here =>
      obtain rfl := Option.some.inj run
      exact .inr (.inr (.inr (.inl ⟨here, rfl, rfl⟩)))
    · cases run
  | look =>
    simp only [step] at run
    split at run
    · next here =>
      obtain rfl := Option.some.inj run
      exact .inr (.inr (.inr (.inr (.inl ⟨here, rfl, rfl, rfl⟩))))
    · cases run
  | report now =>
    simp only [step] at run
    split at run
    · next window here =>
      obtain rfl := Option.some.inj run
      exact .inr (.inr (.inr (.inr (.inr ⟨window, now, here, rfl, rfl, rfl⟩))))
    · cases run

/-- Only an indication adds to the store. -/
theorem step_iin (run : y.step platform a = some y') : y'.iin = y.iin.records (indications [a]) := by
  cases a with
  | onStart | onComplete | onDestroyed | beginFragment | endFragment =>
    obtain ⟨-, rfl⟩ := callback_some (by simpa only [step] using run)
    rfl
  | record =>
    obtain ⟨next_, called, rfl⟩ := Option.map_eq_some_iff.mp run
    obtain ⟨-, rfl⟩ := callback_some called
    rfl
  | otherRecord | ungate | cancel =>
    obtain rfl := Option.some.inj run
    rfl
  | iinRecord =>
    simp only [step] at run
    split at run
    · cases run
    · obtain rfl := Option.some.inj run
      rfl
  | iinProcessed | submitted | rejected | wake | look | report =>
    simp only [step] at run
    split at run
    · obtain rfl := Option.some.inj run
      rfl
    · cases run

/-- The state of the thread, told from the actions so far and the store at the start. -/
structure Called (iin : IinStore) (y : ReadCall) (trace : List ReadAction) : Prop where
  entered : y.phase = .submitting ∨ y.phase = .waiting → y.op.waitTimedOut = false
  woken : y.phase = .woken → y.op.waitTimedOut = false →
    y.op.done = true ∧ (y.op.completion = some .success → Released trace [.wake])
  looked : ∀ window, y.phase = .looked window → ∃ seen later, trace = seen ++ .look :: later ∧
    window = (iin.records (indications seen)).after y.op.iinStartSequence ∧
    (y.op.waitTimedOut = false → y.op.done = true ∧ (y.op.completion = some .success → Released seen [.wake]))

/-- A state of a run from `first`, told from its actions. -/
structure Told (first y : ReadCall) (trace : List ReadAction) : Prop where
  controlled : Controlled y trace
  logged : Logged y (ReadLog.of first.receiveSequence trace)
  fixed : y.op.taskId = first.op.taskId ∧ y.op.options = first.op.options ∧
    y.op.iinStartSequence = first.op.iinStartSequence
  iin : y.iin = first.iin.records (indications trace)
  called : Called first.iin y trace

/-- The task, its options and its window never change. -/
theorem step_fixed (run : y.step platform a = some y') :
    y'.op.taskId = y.op.taskId ∧ y'.op.options = y.op.options ∧ y'.op.iinStartSequence = y.op.iinStartSequence := by
  have data := (step_data run).2
  have same : ∀ {d : ReadData}, y'.op.data = d → d.taskId = y.op.taskId → d.options = y.op.options →
      d.iinStartSequence = y.op.iinStartSequence → y'.op.taskId = y.op.taskId ∧ y'.op.options = y.op.options ∧
        y'.op.iinStartSequence = y.op.iinStartSequence := by
    rintro d rfl taskId options start
    exact ⟨taskId, options, start⟩
  cases a with
  | beginFragment now info => exact same (data.trans (ReadOperation.data_beginFragment info)) rfl rfl rfl
  | record now info item => exact same (data.trans (ReadOperation.data_record _ info item.reading)) rfl rfl rfl
  | onStart | onComplete | onDestroyed | iinRecord | iinProcessed | endFragment | otherRecord | ungate | cancel | submitted |
    rejected | wake | look | report => exact same data rfl rfl rfl

theorem indications_concat (trace : List ReadAction) (a : ReadAction) :
    indications (trace ++ [a]) = indications trace ++ indications [a] := by
  simp [indications]

/-- Every step keeps the connection between the operation and its callbacks. -/
theorem Called.step {iin : IinStore} (k : Called iin y trace) (c : Controlled y trace)
    (stored : y.iin = iin.records (indications trace)) (run : y.step platform a = some y') :
    Called iin y' (trace ++ [a]) := by
  have fixed := (step_fixed run).2.2
  rcases step_phase run with ⟨same, other⟩ | ⟨before, here, rfl⟩ | ⟨message, here⟩ | ⟨before, here, rfl⟩ |
    ⟨before, here, sameOp, rfl⟩ | ⟨window, now, before, here, sameOp, rfl⟩
  · have timed : y'.op.waitTimedOut = y.op.waitTimedOut := by
      rw [step_waitTimedOut run, if_neg other]
    refine ⟨fun entered => ?_, fun woken waited => ?_, fun window looked => ?_⟩
    · rw [timed]
      exact k.entered (by rwa [same] at entered)
    · obtain ⟨done, released⟩ := k.woken (same.symm.trans woken) (timed.symm.trans waited)
      obtain ⟨done', completion, -⟩ := step_done run done
      exact ⟨done', fun success => (released (completion.symm.trans success)).append [a]⟩
    · obtain ⟨seen, later, rfl, shown, rest⟩ := k.looked window (same.symm.trans looked)
      refine ⟨seen, later ++ [a], by simp, by rw [fixed]; exact shown, fun waited => ?_⟩
      obtain ⟨done, released⟩ := rest (timed.symm.trans waited)
      obtain ⟨done', completion, -⟩ := step_done run done
      exact ⟨done', fun success => released (completion.symm.trans success)⟩
  · have timed : y'.op.waitTimedOut = y.op.waitTimedOut := by
      rw [step_waitTimedOut run, if_neg (by simp)]
    refine ⟨fun _ => timed.trans (k.entered (.inl before)), ?_, ?_⟩ <;> simp [here]
  · refine ⟨?_, ?_, ?_⟩ <;> simp [here]
  · have timed := step_waitTimedOut run
    rw [if_pos rfl, k.entered (.inr before), Bool.false_or] at timed
    refine ⟨by simp [here], fun _ waited => ?_, by simp [here]⟩
    have done : y.op.done = true := by simpa [timed] using waited
    obtain ⟨done', completion, -⟩ := step_done run done
    exact ⟨done', fun success => (c.released (completion.symm.trans success)).concat .wake⟩
  · refine ⟨by simp [here], by simp [here], fun window looked => ?_⟩
    obtain rfl : _ = window := ReadPhase.looked.inj (here.symm.trans looked)
    refine ⟨trace, [], rfl, by rw [sameOp, stored], fun waited => ?_⟩
    rw [sameOp] at waited ⊢
    exact k.woken before waited
  · refine ⟨?_, ?_, ?_⟩ <;> simp [here]

/-- Every step is told. -/
theorem Told.step {first : ReadCall} (t : Told first y trace) (run : y.step platform a = some y') :
    Told first y' (trace ++ [a]) where
  controlled := t.controlled.step run
  logged := by
    have log : ReadLog.of first.receiveSequence (trace ++ [a]) = (ReadLog.of first.receiveSequence trace).step a := by
      simp [ReadLog.of]
    rw [log]
    exact t.logged.step run
  fixed := by
    obtain ⟨taskId, options, start⟩ := step_fixed run
    exact ⟨taskId.trans t.fixed.1, options.trans t.fixed.2.1, start.trans t.fixed.2.2⟩
  iin := by rw [step_iin run, t.iin, indications_concat, IinStore.records_append]
  called := t.called.step t.controlled t.iin run

theorem runs_concat (first : ReadCall) (trace : List ReadAction) (a : ReadAction) :
    first.runs platform (trace ++ [a]) = (first.runs platform trace).bind fun y => y.step platform a := by
  rw [runs_append]
  congr 1
  funext y
  simp [runs]

/-! ## Whole runs -/

section Runs

variable {before : List (Nat × IinField)} {midIin hasCapture : Bool} {receiveSequence taskId submitted : Nat}
  {options : ReadOptions}

/-- At first nothing is told. -/
theorem told_start : Told (start before midIin receiveSequence taskId submitted options hasCapture)
    (start before midIin receiveSequence taskId submitted options hasCapture) [] where
  controlled := ⟨rfl, nofun, nofun, nofun⟩
  logged := ⟨rfl, rfl, rfl, rfl, rfl, (Nat.zero_sub _).symm, fun _ => List.take_nil.symm, fun _ => rfl,
    (Nat.zero_min _).symm, (Nat.zero_sub _).symm⟩
  fixed := ⟨rfl, rfl, rfl⟩
  iin := rfl
  called := ⟨fun _ => rfl, nofun, nofun⟩

/-- Every run is told. -/
theorem told_runs {first : ReadCall} (fresh : Told first first []) {trace : List ReadAction} {y : ReadCall}
    (run : first.runs platform trace = some y) : Told first y trace := by
  induction trace using List.reverseRecOn generalizing y with
  | nil =>
    obtain rfl := Option.some.inj run
    exact fresh
  | append_singleton trace a ih =>
    rw [runs_concat] at run
    obtain ⟨x, earlier, last⟩ := Option.bind_eq_some_iff.mp run
    exact (ih earlier).step last

/-- Nothing after the return changes what it says. -/
structure Kept (x y : ReadCall) : Prop where
  done : y.op.done = true
  completion : y.op.completion = x.op.completion
  waitTimedOut : y.op.waitTimedOut = x.op.waitTimedOut

/-- A result comes from the outcome of an earlier state. -/
theorem returned_from {first : ReadCall} (entered : first.phase = .submitting) {trace : List ReadAction} {y : ReadCall}
    (run : first.runs platform trace = some y) {r : Json} (returned : y.phase = .returned (.ok r)) :
    ∃ prior now later x window, trace = prior ++ .report now :: later ∧ first.runs platform prior = some x ∧
      x.phase = .looked window ∧ x.op.outcome platform now window = .ok r ∧ Kept x y := by
  induction trace using List.reverseRecOn generalizing y with
  | nil =>
    obtain rfl := Option.some.inj run
    rw [entered] at returned
    cases returned
  | append_singleton trace a ih =>
    rw [runs_concat] at run
    obtain ⟨z, earlier, last⟩ := Option.bind_eq_some_iff.mp run
    rcases step_phase last with ⟨same, other⟩ | ⟨-, here, -⟩ | ⟨message, here⟩ | ⟨-, here, -⟩ | ⟨-, here, -⟩ |
      ⟨window, now, looked, here, sameOp, rfl⟩
    · obtain ⟨prior, now, later, x, window, rfl, reached, looked, outcome, kept⟩ := ih earlier (same.symm.trans returned)
      obtain ⟨done, completion, timed⟩ := step_done last kept.done
      exact ⟨prior, now, later ++ [a], x, window, by simp, reached, looked, outcome,
        done, completion.trans kept.completion, (timed other).trans kept.waitTimedOut⟩
    · simp [here] at returned
    · simp [here, rejection] at returned
    · simp [here] at returned
    · simp [here] at returned
    · have outcome := ReadPhase.returned.inj (here.symm.trans returned)
      refine ⟨trace, now, [], z, window, rfl, earlier, looked, outcome, ?_, ?_, ?_⟩ <;> rw [sameOp]
      exact (ReadOperation.outcome_ok outcome).2.2.1

/-- A task that is done keeps its completion. -/
theorem runs_done {y z : ReadCall} {more : List ReadAction} (done : y.op.done = true)
    (run : y.runs platform more = some z) : z.op.done = true ∧ z.op.completion = y.op.completion := by
  induction more using List.reverseRecOn generalizing z with
  | nil =>
    obtain rfl := Option.some.inj run
    exact ⟨done, rfl⟩
  | append_singleton more a ih =>
    rw [runs_concat] at run
    obtain ⟨x, earlier, last⟩ := Option.bind_eq_some_iff.mp run
    obtain ⟨reached, same⟩ := ih earlier
    obtain ⟨done', completion, -⟩ := step_done last reached
    exact ⟨done', completion.trans same⟩

/-- A wait that timed out stays timed out. -/
theorem runs_waitTimedOut {y z : ReadCall} {more : List ReadAction} (timed : y.op.waitTimedOut = true)
    (run : y.runs platform more = some z) : z.op.waitTimedOut = true := by
  induction more using List.reverseRecOn generalizing z with
  | nil =>
    obtain rfl := Option.some.inj run
    exact timed
  | append_singleton more a ih =>
    rw [runs_concat] at run
    obtain ⟨x, earlier, last⟩ := Option.bind_eq_some_iff.mp run
    rw [step_waitTimedOut last, ih earlier]
    split <;> rfl

end Runs

end ReadCall

/-- A read of one binary input, with an indication of another response before its own. -/
def exampleReadRun : List ReadAction :=
  let info : HeaderInfo := ⟨Byte.ofNat 1, Byte.ofNat 2, .uint8StartStop, .invalid, false, true, 0⟩
  [.submitted, .iinProcessed 20, .iinRecord 21 ⟨0, 0⟩, .iinProcessed 22, .onStart 23, .beginFragment 24 ⟨false, true, true⟩,
   .record 25 info (.binary (.ofNat 3) true (Byte.ofNat 1) 0), .endFragment 26, .onComplete 27 .success,
   .iinRecord 28 ⟨0x80, 0⟩, .iinProcessed 29, .wake, .look, .onDestroyed 30, .report 31]

end EmsDnp3.Native
