import EmsDnp3.Native.CaptureLedger
import EmsDnp3.Native.CaptureVerdict

/-!
# Conservation and the end of a capture

In every state of every run the counters of a capture add up, and what a terminal capture
reports is final: until the next successful `begin` no step revives it, and once its queue has
drained its counters, its digest and its verdict stay as they are.
-/

namespace EmsDnp3.Native

/-- The action replaces the capture by a new one. -/
def CaptureSystem.begins (y : CaptureSystem) : Action → Bool
  | .begin now _ _ => !(y.capture.expireLocked now).busy
  | _ => false

/-- The state after more actions. -/
def CaptureSystem.after (platform : Platform) (y : CaptureSystem) (actions : List Action) : CaptureSystem :=
  actions.foldl (step platform) y

/-- None of the actions replaces the capture. -/
def CaptureSystem.Keeps (platform : Platform) : CaptureSystem → List Action → Prop
  | _, [] => True
  | y, a :: rest => y.begins a = false ∧ Keeps platform (y.step platform a) rest

/-! ## A terminal capture stays terminal -/

/-- What any step leaves of a terminal capture: it ends for good, and a reason never goes away. -/
structure Capture.Later (s s' : Capture) : Prop where
  terminal : s'.state.terminal = true
  finalized : s'.state = .finalized → s.state = .finalized
  reasons : s.invalidReasons ⊆ s'.invalidReasons

namespace Capture

variable {s s' : Capture}

theorem Later.refl (terminal : s.state.terminal = true) : Later s s := ⟨terminal, id, List.Subset.refl _⟩

theorem expireLocked_terminal (terminal : s.state.terminal = true) (now : Nat) : s.expireLocked now = s := by
  refine if_neg fun due => ?_
  simp [due.1, CaptureState.terminal] at terminal

/-- Counting changes neither the state nor, but for one more, the reasons. -/
theorem later_incrementLocked (read : Capture → Nat) (write : Capture → Nat → Capture)
    (frame : ∀ s n, (write s n).state = s.state ∧ (write s n).invalidReasons = s.invalidReasons)
    (later : Later s s') : Later s (s'.incrementLocked read write) := by
  unfold incrementLocked
  split
  · rw [addInvalidReasonLocked_eq]
    exact ⟨later.terminal, later.finalized, fun _ mem => subset_addReason _ _ (later.reasons mem)⟩
  · obtain ⟨state, reasons⟩ := frame s' (read s' + 1)
    exact ⟨state ▸ later.terminal, fun ended => later.finalized (state ▸ ended), reasons ▸ later.reasons⟩

theorem later_addInvalidReasonLocked (reason : Text) (later : Later s s') :
    Later s (s'.addInvalidReasonLocked reason) := by
  rw [addInvalidReasonLocked_eq]
  exact ⟨later.terminal, later.finalized, fun _ mem => subset_addReason _ _ (later.reasons mem)⟩

/-- A dimension that was counted is a later state. -/
theorem later_incrementDimensionLocked (read : Capture → Dimension) (write : Capture → Dimension → Capture)
    (key : Text) (frame : ∀ s d, (write s d).state = s.state ∧ (write s d).invalidReasons = s.invalidReasons)
    (later : Later s s') : Later s (s'.incrementDimensionLocked read write key) := by
  have written : ∀ d, Later s (write s' d) := fun d => by
    obtain ⟨state, reasons⟩ := frame s' d
    exact ⟨state ▸ later.terminal, fun ended => later.finalized (state ▸ ended), reasons ▸ later.reasons⟩
  unfold incrementDimensionLocked
  split
  · split
    · exact later_addInvalidReasonLocked _ later
    · exact written _
  · split
    · exact later_addInvalidReasonLocked _ later
    · exact written _

/-- A change of fields the final state does not rest on is a later state. -/
theorem later_of_frame {s'' : Capture} (later : Later s s') (state : s''.state = s'.state)
    (reasons : s''.invalidReasons = s'.invalidReasons) : Later s s'' :=
  ⟨state ▸ later.terminal, fun ended => later.finalized (state ▸ ended), reasons ▸ later.reasons⟩

/-- Counting a measurement keeps a terminal capture terminal. -/
theorem later_countMeasurement (m : CaptureMeasurement) (later : Later s s') : Later s (s'.countMeasurement m) := by
  unfold countMeasurement
  refine later_incrementDimensionLocked _ _ _ (fun _ _ => ⟨rfl, rfl⟩)
    (later_incrementDimensionLocked _ _ _ (fun _ _ => ⟨rfl, rfl⟩) ?_)
  exact later_of_frame (later_incrementLocked receivedTotal (fun s n => { s with receivedTotal := n })
    (fun _ _ => ⟨rfl, rfl⟩) later) rfl rfl

/-- A sample of a mismatch is a later state. -/
theorem later_recordUnmatchedLocked (m : CaptureMeasurement) (later : Later s s') :
    Later s (s'.recordUnmatchedLocked m) := by
  have counted := later_incrementLocked unmatchedTotal (fun s n => { s with unmatchedTotal := n })
    (fun _ _ => ⟨rfl, rfl⟩) later
  unfold recordUnmatchedLocked
  dsimp only
  split
  · exact counted
  · exact later_of_frame counted rfl rfl

/-- Holding a measurement against the static set leads to a later state. -/
theorem later_processStatic (m : CaptureMeasurement) (later : Later s s') : Later s (s'.processStatic m) := by
  unfold processStatic
  split
  · exact later_recordUnmatchedLocked m later
  · split
    · exact later_recordUnmatchedLocked m later
    · exact later_incrementLocked duplicates (fun s n => { s with duplicates := n }) (fun _ _ => ⟨rfl, rfl⟩) later
    · exact later_incrementLocked receivedUnique (fun s n => { s with receivedUnique := n })
        (fun _ _ => ⟨rfl, rfl⟩) (later_of_frame later rfl rfl)

/-- One step of the worker leads to a later state. -/
theorem later_work (m : CaptureMeasurement) (rest : List CaptureMeasurement) (terminal : s.state.terminal = true) :
    Later s (s.work m rest) := by
  have popped : Later s { s with queue := rest, processing := true } := later_of_frame (Later.refl terminal) rfl rfl
  have counted := later_countMeasurement m popped
  unfold work processLocked
  dsimp only
  generalize countMeasurement m { s with queue := rest, processing := true } = counted_ at counted
  cases counted_.config.mode with
  | observation => exact later_of_frame counted rfl rfl
  | staticSet => exact later_of_frame (later_processStatic m counted) rfl rfl
  | eventSequence =>
    cases counted_.sequenceDigest with
    | some lines => exact later_of_frame counted rfl rfl
    | none =>
      exact later_of_frame (later_incrementLocked queueOverflow (fun s n => { s with queueOverflow := n })
        (fun _ _ => ⟨rfl, rfl⟩) (later_addInvalidReasonLocked _ counted)) rfl rfl

/-- Closing the event sequence keeps the final state. -/
theorem later_finalizeEventSequenceLocked (platform : Platform) (later : Later s s') :
    Later s (s'.finalizeEventSequenceLocked platform) := by
  obtain ⟨sha, digest, matched, sample, reasons, eq, grow, -⟩ := finalizeEventSequenceLocked_eq platform s'
  rw [eq]
  exact ⟨later.terminal, later.finalized, fun _ mem => grow (later.reasons mem)⟩

/-- A repeated end keeps the final state. -/
theorem later_endReturn (platform : Platform) (now : Nat) (terminal : s.state.terminal = true) :
    Later s (s.endReturn platform now).1 := by
  have waited : Later s (s.endWait platform now) := by
    unfold endWait
    split
    · rw [addInvalidReasonLocked_eq]
      exact ⟨rfl, by simp, subset_addReason _ _⟩
    · split
      · next closing => simp [closing, CaptureState.terminal] at terminal
      · split
        · exact later_of_frame (Later.refl terminal) rfl rfl
        · exact Later.refl terminal
  unfold endReturn
  dsimp only
  split
  · exact later_finalizeEventSequenceLocked platform waited
  · exact waited

/-- An abort behind the end keeps the final state. -/
theorem later_abort (platform : Platform) (now : Nat) (reason : Text) (terminal : s.state.terminal = true) :
    Later s (s.abort platform now reason).1 := by
  unfold abort
  dsimp only
  split
  · rw [addInvalidReasonLocked_eq]
    exact later_finalizeEventSequenceLocked platform ⟨rfl, by simp, subset_addReason _ _⟩
  · exact Later.refl terminal

end Capture

/-- One step of a terminal capture that does not begin a new one. -/
theorem CaptureSystem.later_step {y : CaptureSystem} (platform : Platform) {a : Action}
    (terminal : y.capture.state.terminal = true) (keeps : y.begins a = false) :
    y.capture.Later (y.step platform a).capture := by
  have same := Capture.expireLocked_terminal terminal
  have refl := Capture.Later.refl terminal
  cases a with
  | begin now session config =>
    have busy : (y.capture.expireLocked now).busy = true := by simpa [begins] using keeps
    rw [same] at busy
    simp only [step, Capture.begin, same, busy, if_true]
    exact refl
  | recordFragment now source receivedAt =>
    simp only [step, Capture.recordFragment, same]
    split
    · exact refl
    · exact Capture.later_incrementLocked Capture.fragmentsTotal (fun s n => { s with fragmentsTotal := n })
        (fun _ _ => ⟨rfl, rfl⟩) (Capture.later_of_frame refl rfl rfl)
  | recordObject now m =>
    simp only [step, Capture.recordObject, same]
    have offered := Capture.later_incrementLocked Capture.offeredTotal (fun s n => { s with offeredTotal := n })
      (fun _ _ => ⟨rfl, rfl⟩) refl
    split
    · exact refl
    · split
      · exact Capture.later_addInvalidReasonLocked _ (Capture.later_incrementLocked Capture.queueOverflow
          (fun s n => { s with queueOverflow := n }) (fun _ _ => ⟨rfl, rfl⟩) offered)
      · exact Capture.later_of_frame offered rfl rfl
  | run now =>
    simp only [step, Capture.run, same]
    split
    · exact refl
    · exact Capture.later_work _ _ terminal
  | progress now reference =>
    simp only [step, Capture.progress, same]
    split <;> exact refl
  | endEnter now reference =>
    simp only [step, Capture.endEnter, same]
    split
    · exact refl
    · split
      · next active => simp [active, CaptureState.terminal] at terminal
      · exact refl
  | endReturn now =>
    simp only [step]
    split
    · exact refl
    · exact Capture.later_endReturn platform now terminal
  | abort now reason => exact Capture.later_abort platform now reason terminal
  | status now =>
    simp only [step, Capture.status, same]
    exact refl

/-- **A terminal capture stays terminal**, and its verdict does not improve. -/
theorem CaptureSystem.later_after (platform : Platform) {y : CaptureSystem} {actions : List Action}
    (terminal : y.capture.state.terminal = true) (keeps : y.Keeps platform actions) :
    y.capture.Later (y.after platform actions).capture := by
  induction actions generalizing y with
  | nil => exact Capture.Later.refl terminal
  | cons a rest ih =>
    have here := later_step platform terminal keeps.1
    have there := ih here.terminal keeps.2
    exact ⟨there.terminal, fun ended => here.finalized (there.finalized ended),
      fun _ mem => there.reasons (here.reasons mem)⟩

/-! ## Conservation -/

/-- **Conservation.** Whatever the interleaving of the threads, the counters of a capture add up to
what was offered, its queue stays within its bounds, the counts of a static set agree with its
bitmaps, and a capture that has ended is neither revived nor made valid by any step before
the next successful `begin`. -/
theorem capture_conserved (platform : Platform) (actions : List Action)
    (countable : (history platform actions).Countable) :
    let y := CaptureSystem.runs platform actions
    y.capture.offeredTotal = y.capture.receivedTotal + y.capture.queue.length + y.capture.queueOverflow
        + y.capture.discardedOnAbort ∧
      y.capture.queue.length ≤ y.capture.maxQueueDepth ∧
      y.capture.maxQueueDepth ≤ y.capture.config.queueCapacity ∧
      (y.capture.config.mode = .staticSet →
        y.capture.receivedUnique + y.capture.duplicates + y.capture.unmatchedTotal = y.capture.receivedTotal ∧
        y.capture.receivedUnique = setBits y.capture.ranges) ∧
      (text "CAPTURE_DIMENSION_LIMIT" ∉ y.capture.invalidReasons →
        Counts.total y.capture.byKind = y.capture.receivedTotal) ∧
      (y.capture.state.terminal = true → ∀ later, y.Keeps platform later →
        (y.after platform later).capture.state.name ≠ "ACTIVE" ∧
        ((y.after platform later).capture.verdict = .bool true → y.capture.verdict = .bool true)) := by
  intro y
  obtain ⟨processed, dropped, t⟩ := invariant_runs platform actions countable
  have l := booked_runs platform actions countable
  rw [History.runs_fst] at t l
  refine ⟨l.balance, l.depth, l.capacity, ?_, ?_, ?_⟩
  · intro mode
    have total := (t.static mode).points.tally.length_eq
    rw [List.length_map, ← t.received] at total
    exact ⟨total, l.marked mode⟩
  · intro unlimited
    rw [t.kinds.counted.total_eq (t.kinds.limit.resolve_left unlimited), List.length_map, ← t.received]
  · intro terminal later keeps
    have ended := CaptureSystem.later_after platform terminal keeps
    refine ⟨?_, ?_⟩
    · intro active
      have terminal := ended.terminal
      generalize (y.after platform later).capture.state = state at active terminal
      cases state with
      | idle | active | finalizing => cases terminal
      | finalized | timedOut | aborted => simp [CaptureState.name] at active
    · intro valid
      rw [Capture.verdict, if_pos ended.terminal] at valid
      rw [Capture.verdict, if_pos terminal]
      simp only [Json.bool.injEq, Bool.and_eq_true, decide_eq_true_eq, List.isEmpty_iff] at valid ⊢
      exact ⟨ended.finalized valid.1, List.subset_nil.mp (valid.2 ▸ ended.reasons)⟩

/-- Two objects, one of each sort, on a run that ends. -/
theorem capture_conserved_example :
    (history examplePlatform exampleRun).Countable ∧
    (CaptureSystem.runs examplePlatform exampleRun).capture.receivedUnique =
      setBits (CaptureSystem.runs examplePlatform exampleRun).capture.ranges :=
  ⟨⟨by decide +kernel, by decide +kernel⟩,
    ((capture_conserved examplePlatform exampleRun ⟨by decide +kernel, by decide +kernel⟩).2.2.2.1
      (by decide +kernel)).2⟩

/-! ## A settled capture -/

/-- A terminal capture with nothing left to process and no digest left to close. -/
structure Capture.Settled (s : Capture) : Prop where
  terminal : s.state.terminal = true
  accepting : s.accepting = false
  processing : s.processing = false
  queue : s.queue = []
  sequence : s.config.mode ≠ .eventSequence ∨ s.receivedSequenceSha256.isSome = true

/-- What a later step can change in a settled capture: when and how it ended. -/
def Capture.Resettled (s s' : Capture) : Prop :=
  ∃ state ended reasons, s' = { s with state, endedMonotonicNs := ended, invalidReasons := reasons } ∧
    state.terminal = true ∧ (state = .finalized ↔ s.state = .finalized) ∧
    (s.state = .finalized → reasons = s.invalidReasons)

theorem Capture.Resettled.refl {s : Capture} (settled : s.Settled) : s.Resettled s :=
  ⟨_, _, _, rfl, settled.terminal, Iff.rfl, fun _ => rfl⟩

theorem Capture.Resettled.settled {s s' : Capture} (settled : s.Settled) (next : s.Resettled s') : s'.Settled := by
  obtain ⟨state, ended, reasons, rfl, terminal, -, -⟩ := next
  exact { settled with terminal }

/-- One settled step after another. -/
theorem Capture.Resettled.trans {s s' s'' : Capture} (first : s.Resettled s') (second : s'.Resettled s'') :
    s.Resettled s'' := by
  obtain ⟨state, ended, reasons, rfl, -, same, kept⟩ := first
  obtain ⟨state', ended', reasons', rfl, terminal, same', kept'⟩ := second
  refine ⟨state', ended', reasons', rfl, terminal, same'.trans same, fun finalized => ?_⟩
  rw [kept' (same.mpr finalized)]
  exact kept finalized

/-- A repeated end keeps the result. -/
theorem Capture.Settled.endReturn {s : Capture} (settled : s.Settled) (platform : Platform) (now : Nat) :
    s.Resettled (s.endReturn platform now).1 := by
  have drained : s.drained = true := by simp [drained, settled.queue, settled.processing]
  have unfinished : s.state ≠ .finalizing := by
    intro closing
    simpa [closing, CaptureState.terminal] using settled.terminal
  have done : ∀ e, ({ s with endedMonotonicNs := e } : Capture).finalizeEventSequenceLocked platform =
      { s with endedMonotonicNs := e } := fun e => finalizeEventSequenceLocked_done settled.sequence
  have same : s.finalizeEventSequenceLocked platform = s := finalizeEventSequenceLocked_done settled.sequence
  unfold Capture.endReturn Capture.endWait
  simp only [drained, Bool.not_true, Bool.false_eq_true, if_false, if_neg unfinished]
  by_cases late : (s.state = .timedOut ∨ s.state = .aborted) ∧ s.endedMonotonicNs = 0
  · simp only [if_pos late, if_pos late.1, done]
    exact ⟨_, _, _, rfl, settled.terminal, Iff.rfl, fun _ => rfl⟩
  · simp only [if_neg late]
    split
    · rw [same]
      exact Resettled.refl settled
    · exact Resettled.refl settled

/-- An abort keeps the result of a capture that has ended. -/
theorem Capture.Settled.abort {s : Capture} (settled : s.Settled) (platform : Platform) (now : Nat) (reason : Text) :
    s.Resettled (s.abort platform now reason).1 := by
  unfold Capture.abort
  dsimp only
  split
  · next running =>
    have unfinalized : s.state ≠ .finalized := by
      intro finalized
      simp [Capture.abortable, finalized] at running
    rw [addInvalidReasonLocked_eq, finalizeEventSequenceLocked_done (by exact settled.sequence)]
    refine ⟨.aborted, now, addReason s.invalidReasons reason, ?_, rfl, by simp [unfinalized], fun ended => absurd ended unfinalized⟩
    simp [settled.queue, settled.accepting]
  · exact Resettled.refl settled

/-- Every action but a new begin keeps the result. -/
theorem CaptureSystem.settled_step {y : CaptureSystem} (platform : Platform) {a : Action}
    (settled : y.capture.Settled) (keeps : y.begins a = false) :
    y.capture.Resettled (y.step platform a).capture := by
  have same := Capture.expireLocked_terminal settled.terminal
  have refl := Capture.Resettled.refl settled
  cases a with
  | begin now session config =>
    have busy : (y.capture.expireLocked now).busy = true := by simpa [begins] using keeps
    rw [same] at busy
    simp only [step, Capture.begin, same, busy, if_true]
    exact refl
  | recordFragment now source receivedAt =>
    simp only [step, Capture.recordFragment, same, settled.accepting, Bool.not_false, Bool.true_or, if_true]
    exact refl
  | recordObject now m =>
    simp only [step, Capture.recordObject, same, settled.accepting, Bool.not_false, Bool.true_or, if_true]
    exact refl
  | run now =>
    simp only [step, Capture.run, same, settled.queue]
    exact refl
  | progress now reference =>
    simp only [step, Capture.progress, same]
    split <;> exact refl
  | endEnter now reference =>
    simp only [step, Capture.endEnter, same]
    split
    · exact refl
    · split
      · next active => simpa [active, CaptureState.terminal] using settled.terminal
      · exact refl
  | endReturn now =>
    simp only [step]
    split
    · exact refl
    · exact settled.endReturn platform now
  | abort now reason => exact settled.abort platform now reason
  | status now =>
    simp only [step, Capture.status, same]
    exact refl

/-- Every run without a new begin keeps the result. -/
theorem CaptureSystem.settled_after (platform : Platform) {y : CaptureSystem} {actions : List Action}
    (settled : y.capture.Settled) (keeps : y.Keeps platform actions) :
    y.capture.Resettled (y.after platform actions).capture := by
  induction actions generalizing y with
  | nil => exact Capture.Resettled.refl settled
  | cons a rest ih =>
    have here := settled_step platform settled keeps.1
    exact here.trans (ih (here.settled settled) keeps.2)

/-- The counters of a snapshot, its digest and its verdict. -/
def finalFields : List String :=
  ["expected_total", "offered_total", "received_total", "received_unique", "duplicates", "missing", "unmatched_total",
   "fragments_total", "current_queue_depth", "max_queue_depth", "queue_overflow", "discarded_on_abort", "by_kind",
   "by_group_variation", "received_sequence_sha256", "sequence_match", "valid"]

/-- The snapshot that a reply carries. -/
def reportedSnapshot : BackendOperationResult → Json
  | .ok result => result
  | .error e => (e.details.get? "operation_result").getD .null

theorem reportedSnapshot_resultLocked (platform : Platform) (now : Nat) (s : Capture) :
    reportedSnapshot (s.resultLocked platform now) = s.snapshotLocked platform now := by
  unfold Capture.resultLocked
  split
  · simp [reportedSnapshot]
  · rfl

/-- The final fields of a snapshot do not change any more. -/
theorem Capture.Resettled.snapshot {s s' : Capture} (settled : s.Settled) (next : s.Resettled s')
    (platform : Platform) (now now' : Nat) {key : String} (final : key ∈ finalFields) :
    (s'.snapshotLocked platform now').get? key = (s.snapshotLocked platform now).get? key := by
  obtain ⟨state, ended, reasons, rfl, terminal, same, kept⟩ := next
  have used := CaptureState.ne_idle_of_terminal settled.terminal
  have used' := CaptureState.ne_idle_of_terminal terminal
  have verdict : verdict { s with state, endedMonotonicNs := ended, invalidReasons := reasons } = s.verdict := by
    rw [Capture.verdict, Capture.verdict, if_pos terminal, if_pos settled.terminal]
    by_cases finalized : s.state = .finalized
    · simp [finalized, same.mpr finalized, kept finalized]
    · simp [finalized, mt same.mp finalized]
  rw [snapshotLocked, snapshotLocked, if_neg used, if_neg used', verdict]
  simp only [finalFields, List.mem_cons, List.not_mem_nil, or_false] at final
  rcases final with rfl | rfl | rfl | rfl | rfl | rfl | rfl | rfl | rfl | rfl | rfl | rfl | rfl | rfl | rfl | rfl | rfl
  all_goals simp only [Json.get?_object_cons, String.reduceEq, if_false, if_true]
  all_goals rfl

/-- An event sequence whose digest is reported is settled. -/
theorem Ledger.settled {platform : Platform} {h : History} {s : Capture}
    {processed dropped : List CaptureMeasurement} (l : Ledger platform h s) (t : Tracked h s processed dropped)
    {digest : Text} (reported : s.receivedSequenceSha256 = some digest) : s.Settled := by
  rcases l.sequence with ⟨-, sha, -⟩ | ⟨-, sha, -, -, -⟩ | ⟨mode, manifest, truth, sha, matched, reason, terminal, drained⟩
  · simp [sha] at reported
  · simp [sha] at reported
  · refine ⟨terminal, ?_, t.settled, drained, .inr (by rw [reported]; rfl)⟩
    by_contra accepting
    have active := t.accepting.mp (by simpa using accepting)
    simp [active, CaptureState.terminal] at terminal

/-- An event sequence that ended reports its digest. -/
theorem Ledger.finalizeEventSequence_reported {platform : Platform} {h : History} {s : Capture}
    (l : Ledger platform h s) (used : s.state ≠ .idle) (mode : s.config.mode = .eventSequence) :
    (s.finalizeEventSequenceLocked platform).receivedSequenceSha256.isSome = true := by
  rcases l.sequence with ⟨other, -, -⟩ | ⟨-, sha, -, -, lines⟩ | ⟨-, manifest, truth, sha, -, -, -, -⟩
  · exact absurd mode other
  · obtain ⟨manifest, truth⟩ := Option.isSome_iff_exists.mp ((l.formed.resolve_left used).manifest.mp mode)
    obtain ⟨sample, reasons, eq, -⟩ :=
      Capture.finalizeEventSequenceLocked_folding platform mode truth sha lines
    rw [eq]
    rfl
  · rw [Capture.finalizeEventSequenceLocked_done (.inr (by rw [sha]; rfl)), sha]
    rfl

/-- Whoever returns from `end` on a terminal event sequence finds its digest closed. -/
theorem Ledger.endReturn_reported {platform : Platform} {h : History} {s : Capture}
    {processed dropped : List CaptureMeasurement} (l : Ledger platform h s) (t : Tracked h s processed dropped) (now : Nat)
    (mode : s.config.mode = .eventSequence) (terminal : (s.endReturn platform now).1.state.terminal = true) :
    (s.endReturn platform now).1.receivedSequenceSha256.isSome = true := by
  have drained_iff : s.drained = true ↔ s.queue = [] := by simp [Capture.drained, t.settled]
  unfold Capture.endReturn Capture.endWait at terminal ⊢
  dsimp only at terminal ⊢
  by_cases waiting : s.drained = true
  · have empty := drained_iff.mp waiting
    simp only [waiting, Bool.not_true, Bool.false_eq_true, if_false] at terminal ⊢
    by_cases closing : s.state = .finalizing
    · simp only [if_pos closing]
      obtain ⟨reasons, eq, -, -⟩ := Capture.finalizeStaticSetLocked_eq (s.finalizeEventSequenceLocked platform)
      rw [eq]
      exact l.finalizeEventSequence_reported (by simp [closing]) mode
    · simp only [if_neg closing] at terminal ⊢
      by_cases ended : s.state = .timedOut ∨ s.state = .aborted
      · have used : s.state ≠ .idle := by
          rcases ended with ended | ended <;> simp [ended]
        by_cases late : (s.state = .timedOut ∨ s.state = .aborted) ∧ s.endedMonotonicNs = 0
        · simp only [if_pos late, if_pos ended]
          exact (l.ended now).finalizeEventSequence_reported used mode
        · simp only [if_neg late, if_pos ended]
          exact l.finalizeEventSequence_reported used mode
      · have late : ¬ ((s.state = .timedOut ∨ s.state = .aborted) ∧ s.endedMonotonicNs = 0) := fun both => ended both.1
        simp only [if_neg late, if_neg ended] at terminal ⊢
        have finalized : s.state = .finalized := by
          generalize s.state = state at *
          cases state with
          | idle | active | finalizing => cases terminal
          | timedOut | aborted => simp at ended
          | finalized => rfl
        rcases l.sequence with ⟨other, -, -⟩ | ⟨-, -, -, unfinished, -⟩ | ⟨-, manifest, truth, sha, -, -, -, -⟩
        · exact absurd mode other
        · exact absurd finalized unfinished
        · rw [sha]
          rfl
  · have queued : s.queue ≠ [] := fun empty => waiting (drained_iff.mpr empty)
    have used : s.state ≠ .idle := fun idle => queued (t.empty (.inl idle))
    rw [Bool.not_eq_true] at waiting
    rw [waiting, Bool.not_false, if_pos rfl, Capture.addInvalidReasonLocked_eq, if_pos (.inr rfl)]
    exact (l.discard used (Capture.addReason_ne_nil _ _) now).finalizeEventSequence_reported (by simp) mode

/-- The digest of the two lines of `exampleEventRun`. -/
def exampleEventPlatform : Platform :=
  { examplePlatform with
    sha256 := fun _ => text "33af829427f32fb7da783c766210a7faaf152aa1753d3e808a9c5a30821d144b" }

/-- Two events from solicited responses, known by their digest. -/
def exampleEventParams : Json :=
  .object [("mode", .str "event_sequence"), ("sources", .arr [.str "solicited"]),
    ("expected", .object [("manifest", .object
      [("generator", .str "rig"), ("generator_version", .str "1"), ("scenario_id", .str "s1"), ("seed", .int 7),
       ("start_sequence", .int 1), ("end_sequence", .int 2), ("event_total", .int 2),
       ("sha256", .str "33af829427f32fb7da783c766210a7faaf152aa1753d3e808a9c5a30821d144b"),
       ("match_rule", .str "ordered_kind_index_value")])]),
    ("duration_limit_ms", .int 1000)]

/-- Two binary inputs expected in order. -/
def exampleEventConfig : CaptureConfig where
  mode := .eventSequence
  sources := [.solicited]
  eventManifest := some
    { generator := text "rig", generatorVersion := text "1", scenarioId := text "s1", seed := 7, startSequence := 1
      endSequence := 2, eventTotal := 2
      sha256 := text "33af829427f32fb7da783c766210a7faaf152aa1753d3e808a9c5a30821d144b"
      matchRule := text "ordered_kind_index_value" }
  durationLimitMs := 1000

/-- The two objects arrive, are processed, and the capture ends. -/
def exampleEventRun : List Action :=
  [.begin 10 1 ⟨exampleEventConfig, exampleEventParams, by decide +kernel⟩,
   .recordObject 11 (exampleObject (.ofNat 4)), .run 12, .recordObject 12 (exampleObject (.ofNat 9)),
   .endEnter 13 ⟨"cap-1-1", 5000⟩, .run 14, .endReturn 15]

end EmsDnp3.Native
