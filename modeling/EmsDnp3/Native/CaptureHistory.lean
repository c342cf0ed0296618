import EmsDnp3.Native.CapturePoints

/-!
# What happened to a capture

A `History` is what an observer of the critical sections writes down since the last
successful `begin`: the objects put on the queue, those refused, and how the capture ended.
It keeps no counter and no bitmap. `Tracked` says what the capture's own bookkeeping means
in these terms, in every state of every run.
-/

namespace EmsDnp3.Native

/-- What happened to a capture, independent of its own counters. -/
structure History where
  config : CaptureConfig := {}
  /-- objects put on the queue, in order -/
  accepted : List CaptureMeasurement := []
  /-- objects refused by a full queue -/
  rejected : Nat := 0
  fragments : Nat := 0
  /-- `end` closed the queue before the deadline -/
  closed : Bool := false
  /-- an `end` found the closed queue drained -/
  finalized : Bool := false
  expired : Bool := false
  aborted : Bool := false
  drainTimeout : Bool := false

namespace History

/-- Objects offered by an allowed source while the capture was active. -/
def offered (h : History) : Nat := h.accepted.length + h.rejected

/-- No counter of the capture can have reached its maximum. -/
def Countable (h : History) : Prop := h.offered < 2 ^ 64 ∧ h.fragments < 2 ^ 64

/-- Every critical section but `abort` and the return of `end` looks at the clock first. -/
def expire (now : Nat) (s : Capture) (h : History) : History :=
  if s.state = .active ∧ s.deadline ≤ now then { h with expired := true } else h

/-- What an action adds to the history. -/
def observe (h : History) (y : CaptureSystem) : Action → History
  | .begin now _ config =>
    if (y.capture.expireLocked now).busy then h.expire now y.capture else { config := config.val }
  | .recordFragment now source _ =>
    let s := y.capture.expireLocked now
    let h := h.expire now y.capture
    if s.state = .active ∧ source ∈ s.config.sources then { h with fragments := h.fragments + 1 } else h
  | .recordObject now m =>
    let s := y.capture.expireLocked now
    let h := h.expire now y.capture
    if s.state = .active ∧ m.source ∈ s.config.sources then
      if s.config.queueCapacity ≤ s.queue.length then { h with rejected := h.rejected + 1 }
      else { h with accepted := h.accepted ++ [m] }
    else h
  | .run now | .progress now _ | .status now => h.expire now y.capture
  | .endEnter now reference =>
    let s := y.capture.expireLocked now
    let h := h.expire now y.capture
    if s.state = .active ∧ reference.captureId = s.captureId then { h with closed := true } else h
  | .endReturn _ =>
    if y.draining = 0 then h
    else if !y.capture.drained then { h with drainTimeout := true }
    else if y.capture.state = .finalizing then { h with finalized := true }
    else h
  | .abort _ _ => if y.capture.abortable then { h with aborted := true } else h

/-- A run together with its history. -/
def runs (platform : Platform) (actions : List Action) : CaptureSystem × History :=
  actions.foldl (fun p a => (p.1.step platform a, observe p.2 p.1 a)) ({}, {})

/-- The history only watches the run. -/
theorem runs_fst (platform : Platform) (actions : List Action) :
    (runs platform actions).1 = CaptureSystem.runs platform actions := by
  suffices ∀ (y : CaptureSystem) (h : History),
      (actions.foldl (fun p a => (p.1.step platform a, observe p.2 p.1 a)) (y, h)).1 =
        actions.foldl (CaptureSystem.step platform) y from this _ _
  induction actions with
  | nil => intro _ _; rfl
  | cons a rest ih => intro y h; exact ih _ _

/-- The distinct names of each dimension fit its table. -/
def DimensionsFit (l : List CaptureMeasurement) : Prop :=
  (l.map (·.kind)).toFinset.card ≤ 256 ∧ (l.map Capture.groupVariation).toFinset.card ≤ 256

theorem DimensionsFit.of_concat {l : List CaptureMeasurement} {m : CaptureMeasurement}
    (fits : DimensionsFit (l ++ [m])) : DimensionsFit l := by
  rw [DimensionsFit, List.map_append, List.map_append] at fits
  exact ⟨(Counted.card_concat_mono _ _).trans fits.1, (Counted.card_concat_mono _ _).trans fits.2⟩

/-- Each expected point occurs once in `l`, and nothing else does. -/
def Exact (ranges : List CapturePointRange) (l : List CaptureMeasurement) : Prop :=
  ∀ p, (l.map (·.point)).count p = if Expected ranges p then 1 else 0

end History

/-- How the state of the capture reflects its history. -/
def Phase (h : History) : CaptureState → Prop
  | .idle | .active =>
    h.closed = false ∧ h.finalized = false ∧ h.expired = false ∧ h.aborted = false ∧ h.drainTimeout = false
  | .finalizing =>
    h.closed = true ∧ h.finalized = false ∧ h.expired = false ∧ h.aborted = false ∧ h.drainTimeout = false
  | .finalized =>
    h.closed = true ∧ h.finalized = true ∧ h.expired = false ∧ h.aborted = false ∧ h.drainTimeout = false
  | .timedOut => h.finalized = false ∧ h.expired = true
  | .aborted => h.finalized = false ∧ (h.aborted = true ∨ h.drainTimeout = true)

theorem Phase.finalized_iff {h : History} {state : CaptureState} (phase : Phase h state) :
    h.finalized = true ↔ state = .finalized := by
  cases state with
  | idle | active | finalizing | finalized | timedOut | aborted => simp_all [Phase]

/-- The bookkeeping of a static set after `processed`. -/
structure StaticTracked (h : History) (s : Capture) (processed : List CaptureMeasurement) : Prop where
  points : PointsTracked h.config.pointRanges s.ranges s.receivedUnique s.duplicates s.unmatchedTotal
    (processed.map (·.point))
  total : s.expectedTotal = (expectedPoints h.config.pointRanges).length
  reasons : s.invalidReasons = [] ↔
    h.expired = false ∧ h.aborted = false ∧ h.drainTimeout = false ∧ h.rejected = 0 ∧
      History.DimensionsFit processed ∧ (h.finalized = true → History.Exact h.config.pointRanges processed)

namespace Capture

/-- The names `l` of a dimension are those its table and the recorded reasons allow for. -/
structure DimensionOk (l : List Text) (table : Dimension) (reasons : List Text) : Prop where
  counted : Counted 256 l table
  limit : text "CAPTURE_DIMENSION_LIMIT" ∈ reasons ∨ l.toFinset.card ≤ 256

theorem DimensionOk.mono {l : List Text} {table : Dimension} {reasons more : List Text}
    (ok : DimensionOk l table reasons) (grow : reasons ⊆ more) : DimensionOk l table more :=
  ⟨ok.counted, ok.limit.imp_left fun mem => grow mem⟩

end Capture

/-- Every object that was offered has a place: `processed` was taken off the queue by the worker,
`dropped` by an abort or a drain timeout. -/
structure Accounted (h : History) (s : Capture) (processed dropped : List CaptureMeasurement) : Prop where
  config : s.config = h.config
  apart : h.config.pointRanges.Pairwise CapturePointRange.Apart
  accepting : s.accepting = true ↔ s.state = .active
  settled : s.processing = false
  split : h.accepted = processed ++ dropped ++ s.queue
  kept : s.state ≠ .aborted → dropped = []
  empty : s.state = .idle ∨ s.state = .finalized ∨ s.state = .aborted → s.queue = []
  offered : s.offeredTotal = h.offered
  received : s.receivedTotal = processed.length
  fragments : s.fragmentsTotal = h.fragments
  kinds : Capture.DimensionOk (processed.map (·.kind)) s.byKind s.invalidReasons
  groups : Capture.DimensionOk (processed.map Capture.groupVariation) s.byGroupVariation s.invalidReasons
  phase : Phase h s.state

/-- What the state of a capture says about its history. -/
structure Tracked (h : History) (s : Capture) (processed dropped : List CaptureMeasurement) : Prop
    extends Accounted h s processed dropped where
  static : s.config.mode = .staticSet → StaticTracked h s processed

namespace Capture

/-- The reasons after one more is recorded. -/
def addReason (reasons : List Text) (reason : Text) : List Text :=
  if reasons.contains reason then reasons else reasons ++ [reason]

theorem addInvalidReasonLocked_eq (s : Capture) (reason : Text) :
    s.addInvalidReasonLocked reason = { s with invalidReasons := addReason s.invalidReasons reason } := by
  unfold addInvalidReasonLocked addReason
  split <;> rfl

theorem mem_addReason (reasons : List Text) (reason : Text) : reason ∈ addReason reasons reason := by
  unfold addReason
  split
  · next seen => exact List.contains_iff_mem.mp seen
  · simp

theorem subset_addReason (reasons : List Text) (reason : Text) : reasons ⊆ addReason reasons reason := by
  unfold addReason
  split
  · exact List.Subset.refl _
  · exact List.subset_append_left _ _

@[simp] theorem addReason_ne_nil (reasons : List Text) (reason : Text) : addReason reasons reason ≠ [] :=
  List.ne_nil_of_mem (mem_addReason reasons reason)

theorem incrementLocked_of_lt (read : Capture → Nat) (write : Capture → Nat → Capture) {s : Capture}
    (small : read s < maxCounter) : s.incrementLocked read write = write s (read s + 1) :=
  if_neg (Nat.ne_of_lt small)

/-- A counter that may be full, and a reason on top. -/
theorem overflowLocked_eq (s : Capture) (reason : Text) :
    ∃ count reasons, (s.incrementLocked queueOverflow fun s n => { s with queueOverflow := n }).addInvalidReasonLocked
        reason = { s with queueOverflow := count, invalidReasons := reasons } ∧
      s.invalidReasons ⊆ reasons ∧ reasons ≠ [] := by
  rw [addInvalidReasonLocked_eq]
  unfold incrementLocked
  split
  · rw [addInvalidReasonLocked_eq]
    exact ⟨_, _, rfl, fun _ mem => subset_addReason _ _ (subset_addReason _ _ mem), by simp⟩
  · exact ⟨_, _, rfl, subset_addReason _ _, by simp⟩

/-- A refused object is counted and leaves a reason. -/
theorem failureLocked_eq (s : Capture) (reason : Text) :
    ∃ count reasons, (s.addInvalidReasonLocked reason).incrementLocked queueOverflow
        (fun s n => { s with queueOverflow := n }) = { s with queueOverflow := count, invalidReasons := reasons } ∧
      s.invalidReasons ⊆ reasons ∧ reasons ≠ [] := by
  rw [addInvalidReasonLocked_eq]
  unfold incrementLocked
  split
  · rw [addInvalidReasonLocked_eq]
    exact ⟨_, _, rfl, fun _ mem => subset_addReason _ _ (subset_addReason _ _ mem), by simp⟩
  · exact ⟨_, _, rfl, subset_addReason _ _, by simp⟩

/-- One more name in a dimension: it is counted, or the table is full and a reason says so. -/
theorem incrementDimensionLocked_eq (read : Capture → Dimension) (write : Capture → Dimension → Capture)
    (key : Text) {s : Capture} {l : List Text} (dimension : DimensionOk l (read s) s.invalidReasons)
    (small : l.length < maxCounter) (keep : write s (read s) = s)
    (frame : ∀ table, (write s table).invalidReasons = s.invalidReasons) :
    ∃ table reasons, s.incrementDimensionLocked read write key = { write s table with invalidReasons := reasons } ∧
      DimensionOk (l ++ [key]) table reasons ∧ s.invalidReasons ⊆ reasons ∧
      (reasons = [] ↔ s.invalidReasons = [] ∧ (l ++ [key]).toFinset.card ≤ 256) := by
  obtain ⟨counted, limit⟩ := dimension
  unfold incrementDimensionLocked
  have unchanged : ∀ table, write s table = { write s table with invalidReasons := s.invalidReasons } := fun table => by
    rw [← frame table]
  -- a recorded limit is a reason already
  have fitsOfNil : s.invalidReasons = [] → l.toFinset.card ≤ 256 := fun none =>
    limit.resolve_left (by simp [none])
  cases found : Counts.find (read s) key with
  | some count =>
    obtain ⟨present, le⟩ := Counts.le_total found
    have total := counted.total_le
    have card : (l ++ [key]).toFinset.card = l.toFinset.card := by
      rw [Tallied.toFinset_concat, Finset.insert_eq_of_mem (List.mem_toFinset.mpr (counted.subset present))]
    refine ⟨_, _, (if_neg (by omega)).trans (unchanged _), ⟨counted.bump present, card ▸ limit⟩,
      List.Subset.refl _, ?_⟩
    rw [card]
    exact ⟨fun none => ⟨none, fitsOfNil none⟩, And.left⟩
  | none =>
    have absent := Counts.find_eq_none_iff.mp found
    by_cases room : (read s).length < 256
    · obtain ⟨entered, card⟩ := counted.enter absent room
      exact ⟨_, _, (if_neg (by omega)).trans (unchanged _), ⟨entered, Or.inr card⟩, List.Subset.refl _,
        (and_iff_left card).symm⟩
    · obtain ⟨refused, exceeds⟩ := counted.refuse absent (by omega)
      refine ⟨read s, _, (if_pos (by omega)).trans (addInvalidReasonLocked_eq _ _ |>.trans ?_),
        ⟨refused, Or.inl (mem_addReason _ _)⟩, subset_addReason _ _, ?_⟩
      · rw [keep]
      · simp only [addReason_ne_nil, false_iff]
        omega

/-- The worker counts one object. -/
theorem countMeasurement_eq {s : Capture} {processed : List CaptureMeasurement} (m : CaptureMeasurement)
    (received : s.receivedTotal = processed.length) (small : processed.length < maxCounter)
    (kinds : DimensionOk (processed.map (·.kind)) s.byKind s.invalidReasons)
    (groups : DimensionOk (processed.map groupVariation) s.byGroupVariation s.invalidReasons) :
    ∃ first last byKind byGroupVariation reasons,
      s.countMeasurement m = { s with
        receivedTotal := s.receivedTotal + 1, firstObjectMonotonicNs := first, lastObjectMonotonicNs := last
        byKind, byGroupVariation, invalidReasons := reasons } ∧
      DimensionOk ((processed ++ [m]).map (·.kind)) byKind reasons ∧
      DimensionOk ((processed ++ [m]).map groupVariation) byGroupVariation reasons ∧
      s.invalidReasons ⊆ reasons ∧
      (reasons = [] ↔ s.invalidReasons = [] ∧ History.DimensionsFit (processed ++ [m])) := by
  have bound : s.receivedTotal < maxCounter := received ▸ small
  have counted := incrementLocked_of_lt receivedTotal (fun s n => { s with receivedTotal := n }) bound
  obtain ⟨byKind, reasons, eq, kinds, grow, reasons_iff⟩ :=
    incrementDimensionLocked_eq byKind (fun s d => { s with byKind := d }) m.kind
      (s := { s with
        receivedTotal := s.receivedTotal + 1
        firstObjectMonotonicNs := some (s.firstObjectMonotonicNs.getD m.receivedMonotonicNs)
        lastObjectMonotonicNs := some m.receivedMonotonicNs })
      kinds (by simpa using small) rfl (fun _ => rfl)
  obtain ⟨byGroup, reasons', eq', groups, grow', reasons_iff'⟩ :=
    incrementDimensionLocked_eq byGroupVariation (fun s d => { s with byGroupVariation := d }) (groupVariation m)
      (s := { s with
        receivedTotal := s.receivedTotal + 1
        firstObjectMonotonicNs := some (s.firstObjectMonotonicNs.getD m.receivedMonotonicNs)
        lastObjectMonotonicNs := some m.receivedMonotonicNs
        byKind, invalidReasons := reasons })
      (groups.mono grow) (by simpa using small) rfl (fun _ => rfl)
  refine ⟨some (s.firstObjectMonotonicNs.getD m.receivedMonotonicNs), some m.receivedMonotonicNs, byKind, byGroup,
    reasons', ?_, ?_, ?_, fun _ mem => grow' (grow mem), ?_⟩
  · unfold countMeasurement
    rw [counted]
    dsimp only
    rw [eq, eq']
  · simpa using kinds.mono grow'
  · simpa using groups
  · rw [reasons_iff', reasons_iff, History.DimensionsFit]
    simp [and_assoc]

/-- An unmatched object is counted, and sampled while there is room. -/
theorem recordUnmatchedLocked_eq {s : Capture} (m : CaptureMeasurement) (small : s.unmatchedTotal < maxCounter) :
    ∃ sample, s.recordUnmatchedLocked m =
      { s with unmatchedTotal := s.unmatchedTotal + 1, mismatchSample := sample } := by
  have counted := incrementLocked_of_lt unmatchedTotal (fun s n => { s with unmatchedTotal := n }) small
  unfold recordUnmatchedLocked
  rw [counted]
  dsimp only
  split
  · exact ⟨_, rfl⟩
  · exact ⟨_, rfl⟩

/-- Closing an event sequence writes its digest, its match, a sample and reasons. -/
theorem finalizeEventSequenceLocked_eq (platform : Platform) (s : Capture) :
    ∃ sha digest matched sample reasons,
      s.finalizeEventSequenceLocked platform = { s with
        receivedSequenceSha256 := sha, sequenceDigest := digest, sequenceMatch := matched
        mismatchSample := sample, invalidReasons := reasons } ∧
      s.invalidReasons ⊆ reasons ∧ (s.config.mode ≠ .eventSequence → reasons = s.invalidReasons) := by
  unfold finalizeEventSequenceLocked
  split
  · exact ⟨_, _, _, _, _, rfl, List.Subset.refl _, fun _ => rfl⟩
  · next event =>
    have mode : s.config.mode = .eventSequence := by
      by_contra other
      exact event (Or.inl other)
    split
    · dsimp only
      split
      · exact ⟨_, _, _, _, _, rfl, List.Subset.refl _, fun _ => rfl⟩
      · rw [addInvalidReasonLocked_eq]
        split
        · exact ⟨_, _, _, _, _, rfl, subset_addReason _ _, fun other => absurd mode other⟩
        · exact ⟨_, _, _, _, _, rfl, subset_addReason _ _, fun other => absurd mode other⟩
    · rw [addInvalidReasonLocked_eq]
      exact ⟨_, _, _, _, _, rfl, subset_addReason _ _, fun other => absurd mode other⟩

/-- Closing a static set only adds reasons. -/
theorem finalizeStaticSetLocked_eq (s : Capture) :
    ∃ reasons, s.finalizeStaticSetLocked = { s with invalidReasons := reasons } ∧ s.invalidReasons ⊆ reasons ∧
      (s.config.mode = .staticSet → (reasons = [] ↔ s.invalidReasons = [] ∧
        s.expectedTotal ≤ s.receivedUnique ∧ s.duplicates = 0 ∧ s.unmatchedTotal = 0)) := by
  have missing_iff : s.missing = 0 ↔ s.expectedTotal ≤ s.receivedUnique := by
    unfold missing
    split <;> omega
  unfold finalizeStaticSetLocked
  split
  · next other => exact ⟨_, rfl, List.Subset.refl _, fun mode => absurd mode other⟩
  · split
    · next mismatch =>
      rw [addInvalidReasonLocked_eq]
      refine ⟨_, rfl, subset_addReason _ _, fun _ => ?_⟩
      simp only [addReason_ne_nil, false_iff]
      omega
    · next equal => exact ⟨_, rfl, List.Subset.refl _, fun _ => (and_iff_left (by omega)).symm⟩

/-- The worker marks one object of a static set. -/
theorem processStatic_eq {s : Capture} {ranges : List CapturePointRange} {l : List Point} (m : CaptureMeasurement)
    (apart : ranges.Pairwise CapturePointRange.Apart) (small : l.length < maxCounter)
    (tracked : PointsTracked ranges s.ranges s.receivedUnique s.duplicates s.unmatchedTotal l) :
    ∃ marked unique duplicates unmatched sample,
      s.processStatic m = { s with
        ranges := marked, receivedUnique := unique, duplicates, unmatchedTotal := unmatched
        mismatchSample := sample } ∧
      PointsTracked ranges marked unique duplicates unmatched (l ++ [m.point]) := by
  have total := tracked.tally.length_eq
  unfold processStatic
  cases index : m.index with
  | none =>
    have point : m.point = ⟨m.kind, none⟩ := by rw [CaptureMeasurement.point, index]
    obtain ⟨sample, eq⟩ := recordUnmatchedLocked_eq m (show s.unmatchedTotal < maxCounter by omega)
    exact ⟨_, _, _, _, sample, eq, tracked.miss (by simp [point, Expected])⟩
  | some i =>
    have point : m.point = ⟨m.kind, some i⟩ := by rw [CaptureMeasurement.point, index]
    dsimp only
    cases marked : markRanges m.kind i s.ranges with
    | none =>
      have outside : ¬ Expected ranges ⟨m.kind, some i⟩ := by
        rintro ⟨r, mem, holds⟩
        rw [← tracked.states] at mem
        obtain ⟨state, found, rfl⟩ := List.mem_map.mp mem
        exact markRanges_none marked state found holds
      obtain ⟨sample, eq⟩ := recordUnmatchedLocked_eq m (show s.unmatchedTotal < maxCounter by omega)
      exact ⟨_, _, _, _, sample, eq, tracked.miss (point ▸ outside)⟩
    | some found =>
      obtain ⟨flag, after⟩ := found
      rw [point]
      cases flag with
      | true =>
        exact ⟨_, _, _, _, _, incrementLocked_of_lt _ _ (show s.duplicates < maxCounter by omega),
          tracked.again (markRanges_seen marked)⟩
      | false =>
        have fresh := markRanges_fresh (tracked.states ▸ apart) tracked.wide marked
        exact ⟨_, _, _, _, _, incrementLocked_of_lt _ _ (show s.receivedUnique < maxCounter by omega),
          tracked.mark fresh⟩

end Capture

/-- The ranges of an accepted capture share no point. -/
theorem parseCaptureConfig_apart (config : AcceptedConfig) :
    config.val.pointRanges.Pairwise CapturePointRange.Apart := by
  obtain ⟨config, params, ok⟩ := config
  unfold parseCaptureConfig at ok
  obtain ⟨_, -, ok⟩ := ok_bind_iff.mp ok
  obtain ⟨mode, -, ok⟩ := ok_bind_iff.mp ok
  obtain ⟨_, -, ok⟩ := ok_bind_iff.mp ok
  obtain ⟨_, -, ok⟩ := ok_bind_iff.mp ok
  obtain ⟨_, -, ok⟩ := ok_bind_iff.mp ok
  obtain ⟨_, -, ok⟩ := ok_bind_iff.mp ok
  dsimp only at ok
  split at ok
  · exact (throw_ne_ok.mp ok).elim
  · obtain rfl := ok_pure_iff.mp ok
    exact .nil
  · exact (throw_ne_ok.mp ok).elim
  · obtain ⟨_, -, ok⟩ := ok_bind_iff.mp ok
    obtain ⟨ranges, parsed, ok⟩ := ok_bind_iff.mp ok
    obtain rfl := ok_pure_iff.mp ok
    exact parsePointRanges_apart parsed
  · obtain ⟨_, -, ok⟩ := ok_bind_iff.mp ok
    obtain ⟨_, -, ok⟩ := ok_bind_iff.mp ok
    obtain rfl := ok_pure_iff.mp ok
    exact .nil

namespace Tracked

variable {h : History} {s : Capture} {processed dropped : List CaptureMeasurement}

theorem expire (now : Nat) (t : Tracked h s processed dropped) :
    Tracked (h.expire now s) (s.expireLocked now) processed dropped := by
  unfold History.expire Capture.expireLocked
  split
  · next due =>
    obtain ⟨active, -⟩ := due
    have phase : Phase h .active := active ▸ t.phase
    rw [Capture.addInvalidReasonLocked_eq]
    exact { t with
      accepting := by simp
      kept := fun _ => t.kept (by simp [active])
      empty := by simp
      kinds := t.kinds.mono (Capture.subset_addReason _ _)
      groups := t.groups.mono (Capture.subset_addReason _ _)
      phase := ⟨phase.2.1, rfl⟩
      static := fun mode => { t.static mode with reasons := by simp } }
  · exact t

/-- A new capture has received nothing. -/
theorem begin (s : Capture) (now session : Nat) (config : AcceptedConfig) :
    Tracked { config := config.val } (s.begun now session config.val) [] [] where
  config := rfl
  apart := parseCaptureConfig_apart config
  accepting := by simp [Capture.begun]
  settled := rfl
  split := rfl
  kept := fun _ => rfl
  empty := fun _ => rfl
  offered := rfl
  received := rfl
  fragments := rfl
  kinds := ⟨Counted.nil, Or.inr (by simp)⟩
  groups := ⟨Counted.nil, Or.inr (by simp)⟩
  phase := ⟨rfl, rfl, rfl, rfl, rfl⟩
  static := fun mode =>
    { points :=
        { states := by simp [Capture.begun, Function.comp_def]
          wide := by simp [Capture.begun, RangeState.Wide, Bitmap.clear]
          seen := by simp [Capture.begun, Seen]
          tally := Tallied.nil }
      total := (expectedPoints_length _).symm
      reasons := by simp [Capture.begun, Capture.resetLocked, History.DimensionsFit] }

theorem fragment (t : Tracked h s processed dropped) (first : Option Nat) :
    Tracked { h with fragments := h.fragments + 1 }
      { s with firstFragmentMonotonicNs := first, fragmentsTotal := s.fragmentsTotal + 1 } processed dropped :=
  { t with
    fragments := congrArg (· + 1) t.fragments
    static := fun mode => { t.static mode with } }

/-- An object that is queued was accepted. -/
theorem enqueue (t : Tracked h s processed dropped) (active : s.state = .active) (m : CaptureMeasurement) :
    Tracked { h with accepted := h.accepted ++ [m] }
      { s with
        offeredTotal := s.offeredTotal + 1, queue := s.queue ++ [m]
        maxQueueDepth := max s.maxQueueDepth (s.queue.length + 1) } processed dropped :=
  { t with
    split := by simp [t.split]
    empty := by simp [active]
    offered := by simp [t.offered, History.offered]; omega
    static := fun mode => { t.static mode with } }

/-- An object that found no room was rejected. -/
theorem refuse (t : Tracked h s processed dropped) {count : Nat} {reasons : List Text}
    (grow : s.invalidReasons ⊆ reasons) (some_ : reasons ≠ []) :
    Tracked { h with rejected := h.rejected + 1 }
      { s with offeredTotal := s.offeredTotal + 1, queueOverflow := count, invalidReasons := reasons }
      processed dropped :=
  { t with
    offered := by simp [t.offered, History.offered]; omega
    kinds := t.kinds.mono grow
    groups := t.groups.mono grow
    static := fun mode => { t.static mode with reasons := by simp [some_] } }

/-- The worker takes the first object off the queue. -/
theorem work {m : CaptureMeasurement} {rest : List CaptureMeasurement} (t : Tracked h s processed dropped)
    (queue : s.queue = m :: rest) (countable : h.Countable) :
    Tracked h (s.work m rest) (processed ++ [m]) dropped := by
  have running : s.state ≠ .aborted := fun aborted => by simp [t.empty (Or.inr (Or.inr aborted))] at queue
  have kept := t.kept running
  have split : h.accepted = processed ++ [m] ++ dropped ++ rest := by simp [t.split, kept, queue]
  have small : processed.length < maxCounter := by
    have := congrArg List.length split
    have := countable.1
    simp only [History.offered, List.length_append, List.length_singleton, maxCounter] at *
    omega
  obtain ⟨first, last, byKind, byGroup, reasons, counted, kinds, groups, grow, reasons_iff⟩ :=
    Capture.countMeasurement_eq (s := { s with queue := rest, processing := true }) m t.received small t.kinds t.groups
  have accounted : Accounted h
      { s with
        queue := rest, receivedTotal := s.receivedTotal + 1, firstObjectMonotonicNs := first
        lastObjectMonotonicNs := last, byKind, byGroupVariation := byGroup, invalidReasons := reasons }
      (processed ++ [m]) dropped :=
    { t.toAccounted with
      split
      empty := fun ended => by simp [t.empty ended] at queue
      received := by simp [t.received]
      kinds
      groups }
  unfold Capture.work Capture.processLocked
  rw [counted]
  dsimp only
  cases mode : s.config.mode with
  | observation => exact { accounted with settled := rfl, static := fun static => by simp [mode] at static }
  | eventSequence =>
    cases s.sequenceDigest with
    | some lines => exact { accounted with settled := rfl, static := fun static => by simp [mode] at static }
    | none =>
      obtain ⟨count, reasons', eq, grow', -⟩ := Capture.failureLocked_eq
        { s with
          queue := rest, processing := true, receivedTotal := s.receivedTotal + 1, firstObjectMonotonicNs := first
          lastObjectMonotonicNs := last, byKind, byGroupVariation := byGroup, invalidReasons := reasons
          sequenceDigest := none }
        "CAPTURE_PROCESSING_FAILURE"
      dsimp only
      rw [eq]
      exact { accounted with
        settled := rfl
        kinds := kinds.mono grow'
        groups := groups.mono grow'
        static := fun static => by simp [mode] at static }
  | staticSet =>
    have static := t.static mode
    obtain ⟨marked, unique, duplicates, unmatched, sample, eq, points⟩ := Capture.processStatic_eq
      (s := { s with
        queue := rest, processing := true, receivedTotal := s.receivedTotal + 1, firstObjectMonotonicNs := first
        lastObjectMonotonicNs := last, byKind, byGroupVariation := byGroup, invalidReasons := reasons })
      m t.apart (by simpa using small) static.points
    dsimp only
    rw [eq]
    refine { accounted with settled := rfl, static := fun _ => ⟨by simpa using points, static.total, ?_⟩ }
    dsimp only
    have open_ : h.finalized = false := by
      by_contra finalized
      have ended := (Phase.finalized_iff t.phase).mp (by simpa using finalized)
      simp [t.empty (Or.inr (Or.inl ended))] at queue
    rw [reasons_iff, static.reasons]
    simp only [open_, Bool.false_eq_true, false_implies, and_true, and_assoc]
    have shorter := History.DimensionsFit.of_concat (l := processed) (m := m)
    tauto

/-- `end` closes the queue. -/
theorem close (t : Tracked h s processed dropped) (active : s.state = .active) :
    Tracked { h with closed := true } { s with state := .finalizing, accepting := false } processed dropped := by
  have phase : Phase h .active := active ▸ t.phase
  exact { t with
    accepting := by simp
    kept := fun _ => t.kept (by simp [active])
    empty := by simp
    phase := ⟨rfl, phase.2⟩
    static := fun mode => { t.static mode with } }

/-- The queue is thrown away by an abort or a drain timeout, and a reason says so. -/
theorem discard (t : Tracked h s processed dropped) {reasons : List Text} (now : Nat)
    (grow : s.invalidReasons ⊆ reasons) (some_ : reasons ≠ []) (running : s.state ≠ .finalized)
    {aborted drainTimeout : Bool} (ended : aborted = true ∨ drainTimeout = true) :
    Tracked { h with aborted, drainTimeout }
      { s with
        accepting := false, discardedOnAbort := s.discardedOnAbort + s.queue.length, queue := []
        state := .aborted, endedMonotonicNs := now, invalidReasons := reasons } processed (dropped ++ s.queue) := by
  have unfinished : h.finalized = false := by
    simpa using mt (Phase.finalized_iff t.phase).mp running
  exact { t with
    accepting := by simp
    split := by simp [t.split]
    kept := by simp
    empty := fun _ => rfl
    kinds := t.kinds.mono grow
    groups := t.groups.mono grow
    phase := ⟨unfinished, ended⟩
    static := fun mode => { t.static mode with reasons := by rcases ended with rfl | rfl <;> simp [some_] } }

/-- Closing the digest of an event sequence does not touch a static set. -/
theorem finalizeEventSequence (t : Tracked h s processed dropped) (platform : Platform) :
    Tracked h (s.finalizeEventSequenceLocked platform) processed dropped := by
  obtain ⟨sha, digest, matched, sample, reasons, eq, grow, untouched⟩ :=
    Capture.finalizeEventSequenceLocked_eq platform s
  rw [eq]
  refine { t with
    kinds := t.kinds.mono grow
    groups := t.groups.mono grow
    static := fun mode => { t.static mode with reasons := ?_ } }
  dsimp only at mode ⊢
  rw [untouched (by simp [mode])]
  exact (t.static mode).reasons

/-- `end` finds a closed queue drained. -/
theorem finalizeStaticSet (t : Tracked h s processed dropped) (closing : s.state = .finalizing)
    (drained : s.queue = []) (now : Nat) :
    Tracked { h with finalized := true }
      { s.finalizeStaticSetLocked with state := .finalized, endedMonotonicNs := now } processed dropped := by
  have phase : Phase h .finalizing := closing ▸ t.phase
  obtain ⟨reasons, eq, grow, reasons_iff⟩ := Capture.finalizeStaticSetLocked_eq s
  rw [eq]
  refine { t with
    accepting := by simp [t.accepting, closing]
    kept := fun _ => t.kept (by simp [closing])
    empty := fun _ => drained
    kinds := t.kinds.mono grow
    groups := t.groups.mono grow
    phase := ⟨phase.1, rfl, phase.2.2⟩
    static := fun mode => { t.static mode with reasons := ?_ } }
  have static := t.static mode
  have exact_iff : History.Exact h.config.pointRanges processed ↔ _ :=
    (static.points.tally.exact_iff (expectedPoints_nodup t.apart) (mem_expectedPoints _)).symm
  dsimp only at mode ⊢
  rw [reasons_iff mode, static.reasons, static.total]
  simp only [phase.2.1, Bool.false_eq_true, false_implies, and_true, and_assoc, true_implies, exact_iff]

/-- Before the first capture there is nothing to track. -/
theorem initial : Tracked {} {} [] [] where
  config := rfl
  apart := .nil
  accepting := by simp
  settled := rfl
  split := rfl
  kept := fun _ => rfl
  empty := fun _ => rfl
  offered := rfl
  received := rfl
  fragments := rfl
  kinds := ⟨Counted.nil, Or.inr (by simp)⟩
  groups := ⟨Counted.nil, Or.inr (by simp)⟩
  phase := ⟨rfl, rfl, rfl, rfl, rfl⟩
  static := by simp

end Tracked

/-! ## Runs -/

/-- As long as no counter can be full, the capture is tracked. -/
def Invariant (y : CaptureSystem) (h : History) : Prop :=
  h.Countable → ∃ processed dropped, Tracked h y.capture processed dropped

namespace History

@[simp] theorem expire_offered (now : Nat) (s : Capture) (h : History) : (h.expire now s).offered = h.offered := by
  unfold expire
  split <;> rfl

@[simp] theorem expire_fragments (now : Nat) (s : Capture) (h : History) :
    (h.expire now s).fragments = h.fragments := by
  unfold expire
  split <;> rfl

end History

section
variable {h : History} {s : Capture} {processed dropped : List CaptureMeasurement}

/-- What an observer sees accepted is what the code accepts. -/
theorem Tracked.accepts (t : Tracked h s processed dropped) (source : CaptureSource) :
    (!s.accepting || !s.sourceAllowedLocked source) = !decide (s.state = .active ∧ source ∈ s.config.sources) := by
  have accepting : s.accepting = decide (s.state = .active) := by
    rw [Bool.eq_iff_iff, t.accepting, decide_eq_true_iff]
  simp [accepting, Capture.sourceAllowedLocked]

/-- The end of the wait discards what is still queued. -/
theorem Tracked.endWait (t : Tracked h s processed dropped) (platform : Platform) (now : Nat) :
    ∃ dropped, Tracked
      (if !s.drained then { h with drainTimeout := true }
       else if s.state = .finalizing then { h with finalized := true } else h)
      (s.endWait platform now) processed dropped := by
  unfold Capture.endWait
  have drained_iff : s.drained = true ↔ s.queue = [] := by simp [Capture.drained, t.settled]
  split
  · next waiting =>
    have queued : s.queue ≠ [] := fun empty => by simp [drained_iff.mpr empty] at waiting
    have running : s.state ≠ .finalized := fun ended => queued (t.empty (Or.inr (Or.inl ended)))
    rw [Capture.addInvalidReasonLocked_eq]
    exact ⟨_, t.discard now (Capture.subset_addReason _ _) (Capture.addReason_ne_nil _ _) running (Or.inr rfl)⟩
  · next drained =>
    have empty : s.queue = [] := drained_iff.mp (by simpa using drained)
    split
    · next closing =>
      obtain ⟨sha, digest, matched, sample, reasons, eq, -⟩ := Capture.finalizeEventSequenceLocked_eq platform s
      exact ⟨_, (t.finalizeEventSequence platform).finalizeStaticSet (by rw [eq]; exact closing)
        (by rw [eq]; exact empty) now⟩
    · split
      · exact ⟨_, { t with static := fun mode => { t.static mode with } }⟩
      · exact ⟨_, t⟩

/-- The last section of `end`. -/
theorem Tracked.endReturn (t : Tracked h s processed dropped) (platform : Platform) (now : Nat) :
    ∃ dropped, Tracked
      (if !s.drained then { h with drainTimeout := true }
       else if s.state = .finalizing then { h with finalized := true } else h)
      (s.endReturn platform now).1 processed dropped := by
  obtain ⟨dropped, waited⟩ := t.endWait platform now
  refine ⟨dropped, ?_⟩
  generalize (if !s.drained then _ else _ : History) = h' at waited ⊢
  unfold Capture.endReturn
  dsimp only
  split
  · exact waited.finalizeEventSequence platform
  · exact waited

/-- `abort` discards what is still queued. -/
theorem Tracked.abort (t : Tracked h s processed dropped) (platform : Platform) (now : Nat) (reason : Text) :
    ∃ dropped, Tracked (if s.abortable then { h with aborted := true } else h)
      (s.abort platform now reason).1 processed dropped := by
  unfold Capture.abort
  dsimp only
  split
  · next running =>
    rw [Capture.addInvalidReasonLocked_eq]
    refine ⟨_, Tracked.finalizeEventSequence (t.discard now (Capture.subset_addReason _ _)
      (Capture.addReason_ne_nil _ _) ?_ (Or.inl rfl)) platform⟩
    rintro ended
    simp [Capture.abortable, ended] at running
  · exact ⟨_, t⟩

/-- The first section of `end`. -/
theorem Tracked.endEnter (t : Tracked h s processed dropped) (platform : Platform) (now : Nat)
    (reference : CaptureReferenceConfig) (draining : Nat) :
    Tracked (h.observe ⟨s, draining⟩ (.endEnter now reference)) (s.endEnter platform now reference).1
      processed dropped := by
  have t := t.expire now
  simp only [History.observe, Capture.endEnter]
  generalize s.expireLocked now = s at t ⊢
  unfold Capture.validateReferenceLocked
  by_cases named : s.state ≠ .idle ∧ reference.captureId = s.captureId
  · rw [if_pos named]
    by_cases active : s.state = .active
    · rw [if_pos ⟨active, named.2⟩, if_pos active]
      exact t.close active
    · rw [if_neg fun both => active both.1, if_neg active]
      exact t
  · rw [if_neg named, if_neg fun both => named ⟨by simp [both.1], both.2⟩]
    exact t

/-- A received fragment. -/
theorem Tracked.recordFragment (t : Tracked h s processed dropped) (now : Nat) (source : CaptureSource)
    (receivedAt draining : Nat)
    (small : (h.observe ⟨s, draining⟩ (.recordFragment now source receivedAt)).fragments < 2 ^ 64) :
    Tracked (h.observe ⟨s, draining⟩ (.recordFragment now source receivedAt))
      (s.recordFragment now source receivedAt) processed dropped := by
  have t := t.expire now
  simp only [History.observe, Capture.recordFragment] at small ⊢
  generalize s.expireLocked now = s, h.expire now s = h at t small ⊢
  rw [t.accepts]
  by_cases accepted : s.state = .active ∧ source ∈ s.config.sources
  · rw [if_pos accepted] at small ⊢
    rw [decide_eq_true accepted, Bool.not_true, if_neg Bool.false_ne_true]
    have bound : s.fragmentsTotal < maxCounter := by
      have small : h.fragments + 1 < 2 ^ 64 := small
      rw [t.fragments, maxCounter]
      omega
    rw [Capture.incrementLocked_of_lt _ _ (by exact bound)]
    exact t.fragment _
  · simpa only [accepted, if_false, decide_false, Bool.not_false, if_true] using t

/-- An offered object is queued or rejected. -/
theorem Tracked.recordObject (t : Tracked h s processed dropped) (now : Nat) (m : CaptureMeasurement) (draining : Nat)
    (small : (h.observe ⟨s, draining⟩ (.recordObject now m)).offered < 2 ^ 64) :
    Tracked (h.observe ⟨s, draining⟩ (.recordObject now m)) (s.recordObject now m) processed dropped := by
  have t := t.expire now
  simp only [History.observe, Capture.recordObject] at small ⊢
  generalize s.expireLocked now = s, h.expire now s = h at t small ⊢
  rw [t.accepts]
  by_cases accepted : s.state = .active ∧ m.source ∈ s.config.sources
  · rw [if_pos accepted] at small ⊢
    rw [decide_eq_true accepted, Bool.not_true, if_neg Bool.false_ne_true]
    have bound : h.offered + 1 < 2 ^ 64 → s.offeredTotal < maxCounter := fun small => by
      rw [t.offered, maxCounter]
      omega
    have counted := fun small =>
      Capture.incrementLocked_of_lt Capture.offeredTotal (fun s n => { s with offeredTotal := n }) (bound small)
    by_cases full : s.config.queueCapacity ≤ s.queue.length
    · rw [if_pos full] at small ⊢
      rw [counted (by simpa [History.offered, Nat.add_assoc] using small), if_pos full]
      obtain ⟨count, reasons, eq, grow, some_⟩ := Capture.overflowLocked_eq
        { s with offeredTotal := s.offeredTotal + 1 } "CAPTURE_QUEUE_OVERFLOW"
      rw [eq]
      exact t.refuse grow some_
    · rw [if_neg full] at small ⊢
      rw [counted (by simpa [History.offered, Nat.add_assoc, Nat.add_comm] using small), if_neg full]
      exact t.enqueue accepted.1 m
  · simpa only [accepted, if_false, decide_false, Bool.not_false, if_true] using t

/-- A turn of the worker processes the oldest queued object. -/
theorem Tracked.run (t : Tracked h s processed dropped) (now : Nat) (countable : h.Countable) :
    ∃ processed, Tracked (h.expire now s) (s.run now) processed dropped := by
  have t := t.expire now
  have countable : (h.expire now s).Countable := by simpa [History.Countable] using countable
  unfold Capture.run
  dsimp only
  split
  · exact ⟨_, t⟩
  · next queue => exact ⟨_, t.work queue countable⟩

end

/-- The counts of a history only go back at a `begin` that succeeds. -/
theorem History.observe_countable {y : CaptureSystem} {h : History} {a : Action}
    (countable : (h.observe y a).Countable) :
    h.Countable ∨ ∃ now session config, a = .begin now session config ∧ (y.capture.expireLocked now).busy = false := by
  have expired : ∀ now : Nat, (h.expire now y.capture).Countable → h.Countable := by simp [History.Countable]
  unfold History.observe at countable
  cases a with
  | begin now session config =>
    dsimp only at countable
    by_cases busy : (y.capture.expireLocked now).busy
    · rw [if_pos busy] at countable
      exact Or.inl (expired now countable)
    · exact Or.inr ⟨now, session, config, rfl, by simpa using busy⟩
  | recordFragment now source receivedAt =>
    refine Or.inl (expired now ?_)
    dsimp only at countable
    split at countable
    · exact ⟨countable.1, lt_of_le_of_lt (Nat.le_succ _) countable.2⟩
    · exact countable
  | recordObject now m =>
    refine Or.inl (expired now ?_)
    dsimp only at countable
    split at countable
    · refine ⟨lt_of_le_of_lt ?_ countable.1, ?_⟩
      · split <;> simp [History.offered]
      · split at countable <;> exact countable.2
    · exact countable
  | run now | progress now reference | status now => exact Or.inl (expired now countable)
  | endEnter now reference =>
    refine Or.inl (expired now ?_)
    dsimp only at countable
    split at countable <;> exact countable
  | endReturn now =>
    dsimp only at countable
    split at countable
    · exact Or.inl countable
    · split at countable
      · exact Or.inl countable
      · split at countable <;> exact Or.inl countable
  | abort now reason =>
    dsimp only at countable
    split at countable <;> exact Or.inl countable

/-- A step keeps the capture tracked. -/
theorem Invariant.step {y : CaptureSystem} {h : History} (inv : Invariant y h) (platform : Platform) (a : Action) :
    Invariant (y.step platform a) (h.observe y a) := by
  intro countable
  rcases History.observe_countable countable with before | ⟨now, session, config, rfl, free⟩
  · obtain ⟨processed, dropped, t⟩ := inv before
    cases a with
    | begin now session config =>
      by_cases busy : (y.capture.expireLocked now).busy
      · refine ⟨processed, dropped, ?_⟩
        simp only [CaptureSystem.step, Capture.begin, History.observe, busy, if_true]
        exact t.expire now
      · refine ⟨[], [], ?_⟩
        simp only [CaptureSystem.step, Capture.begin, History.observe, busy]
        exact Tracked.begin _ now session config
    | recordFragment now source receivedAt =>
      exact ⟨_, _, t.recordFragment now source receivedAt y.draining countable.2⟩
    | recordObject now m => exact ⟨_, _, t.recordObject now m y.draining countable.1⟩
    | run now =>
      obtain ⟨processed, t⟩ := t.run now before
      exact ⟨_, _, t⟩
    | progress now reference =>
      refine ⟨processed, dropped, ?_⟩
      simp only [CaptureSystem.step, Capture.progress, History.observe]
      split <;> exact t.expire now
    | endEnter now reference => exact ⟨_, _, t.endEnter platform now reference y.draining⟩
    | endReturn now =>
      simp only [CaptureSystem.step, History.observe]
      by_cases idle : y.draining = 0
      · simp only [idle, if_true]
        exact ⟨_, _, t⟩
      · simp only [idle, if_false]
        obtain ⟨dropped, t⟩ := t.endReturn platform now
        exact ⟨_, _, t⟩
    | abort now reason =>
      obtain ⟨dropped, t⟩ := t.abort platform now reason
      exact ⟨_, _, t⟩
    | status now => exact ⟨_, _, t.expire now⟩
  · refine ⟨[], [], ?_⟩
    simp only [CaptureSystem.step, Capture.begin, History.observe, free]
    exact Tracked.begin _ now session config

/-- **Every run is tracked by its history.** -/
theorem invariant_runs (platform : Platform) (actions : List Action) :
    Invariant (History.runs platform actions).1 (History.runs platform actions).2 := by
  have start : Invariant {} {} := fun _ => ⟨[], [], Tracked.initial⟩
  unfold History.runs
  generalize ({} : CaptureSystem) = y, ({} : History) = h at start ⊢
  induction actions generalizing y h with
  | nil => exact start
  | cons a rest ih => exact ih (y.step platform a) (h.observe y a) (start.step platform a)

end EmsDnp3.Native
