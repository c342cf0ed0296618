import EmsDnp3.Native.CaptureConservation

/-!
# A capture at any count

The relations between the fields of a capture that hold in every state of every run, also when
a counter has stopped at its maximum: the verdict and the digest agree with the counters a
snapshot shows beside them.
-/

namespace EmsDnp3.Native

/-- Every set bit of a range belongs to one of its points. -/
def RangeState.Tight (r : RangeState) : Prop := ∀ offset, r.bits.test offset = true → offset < r.range.count

/-- Bits below a limit are at most as many. -/
theorem Bitmap_count_le {bits : Bitmap} {limit : Nat} (tight : ∀ offset, bits.test offset = true → offset < limit) :
    bits.count ≤ limit := by
  have below : ∀ n, (List.range n).countP bits.test ≤ min n limit := by
    intro n
    induction n with
    | zero => simp
    | succ n ih =>
      rw [List.range_succ, List.countP_append, List.countP_singleton]
      split
      · next set_ =>
        have := tight n set_
        omega
      · omega
  exact (below _).trans (Nat.min_le_right _ _)

/-- Bitmaps that mark only points of their ranges hold at most as many bits. -/
theorem setBits_le {ranges : List RangeState} (tight : ∀ r ∈ ranges, r.Tight) :
    setBits ranges ≤ (ranges.map (·.range.count)).sum := by
  induction ranges with
  | nil => simp [setBits]
  | cons r rest ih =>
    rw [List.forall_mem_cons] at tight
    have here := Bitmap_count_le tight.1
    have there := ih tight.2
    rw [setBits_cons, List.map_cons, List.sum_cons]
    omega

/-- The ranges of a capture after some marks. -/
structure RangesSound (s : Capture) : Prop where
  wide : ∀ r ∈ s.ranges, r.Wide
  tight : ∀ r ∈ s.ranges, r.Tight
  total : (s.ranges.map (·.range.count)).sum = s.expectedTotal
  unique : s.receivedUnique ≤ setBits s.ranges

/-- Marking a point keeps the ranges and the width of their bitmaps. -/
theorem markRanges_sound {kind : Text} {index : PointIndex} {ranges after : List RangeState}
    (wide : ∀ r ∈ ranges, r.Wide) (tight : ∀ r ∈ ranges, r.Tight)
    (marked : Capture.markRanges kind index ranges = some (false, after)) :
    (∀ r ∈ after, r.Wide) ∧ (∀ r ∈ after, r.Tight) ∧ after.map (·.range) = ranges.map (·.range) := by
  induction ranges generalizing after with
  | nil => cases marked
  | cons r rest ih =>
    rw [List.forall_mem_cons] at wide tight
    rw [Capture.markRanges_cons] at marked
    split at marked
    · next holds =>
      split at marked
      · simp at marked
      · obtain ⟨-, rfl⟩ := Prod.mk.inj (Option.some.inj marked)
        have low : r.range.start.val ≤ index.val := holds.2.1
        have high : index.val ≤ r.range.stop.val := holds.2.2
        have bound : (index.val - r.range.start.val) / 64 < r.bits.length := by
          rw [show r.bits.length = _ from wide.1, CapturePointRange.count]
          omega
        refine ⟨List.forall_mem_cons.mpr ⟨?_, wide.2⟩, List.forall_mem_cons.mpr ⟨?_, tight.2⟩, rfl⟩
        · simpa [RangeState.Wide] using wide.1
        · intro offset set_
          rw [Bitmap.test_insert bound, Bool.or_eq_true, decide_eq_true_eq] at set_
          rcases set_ with rfl | old
          · simp only [CapturePointRange.count]
            omega
          · exact tight.1 offset old
    · obtain ⟨found, later, same⟩ := Option.map_eq_some_iff.mp marked
      obtain ⟨flag, rfl⟩ := Prod.mk.inj same
      have below : Capture.markRanges kind index rest = some (false, found.2) := by rw [later, ← flag]
      obtain ⟨wide', tight', ranges⟩ := ih wide.2 tight.2 below
      exact ⟨List.forall_mem_cons.mpr ⟨wide.1, wide'⟩, List.forall_mem_cons.mpr ⟨tight.1, tight'⟩, by simp [ranges]⟩

namespace Capture

/-- A counter goes up by one or stays at its maximum, and then a reason says so. -/
theorem incrementLocked_cases (read : Capture → Nat) (write : Capture → Nat → Capture) (s : Capture) :
    (read s = maxCounter ∧ s.incrementLocked read write =
      { s with invalidReasons := addReason s.invalidReasons "CAPTURE_COUNTER_OVERFLOW" }) ∨
    (read s ≠ maxCounter ∧ s.incrementLocked read write = write s (read s + 1)) := by
  unfold incrementLocked
  split
  · next full => exact .inl ⟨full, addInvalidReasonLocked_eq _ _⟩
  · next room => exact .inr ⟨room, rfl⟩

/-- Counting a name touches its table and the reasons only. -/
theorem incrementDimensionLocked_frame (read : Capture → Dimension) (write : Capture → Dimension → Capture) (key : Text)
    (s : Capture) (keep : write s (read s) = s)
    (frame : ∀ table, (write s table).invalidReasons = s.invalidReasons) :
    ∃ table reasons, s.incrementDimensionLocked read write key = { write s table with invalidReasons := reasons } ∧
      s.invalidReasons ⊆ reasons := by
  have written : ∀ table, write s table = { write s table with invalidReasons := s.invalidReasons } := fun table => by
    rw [← frame table]
  have refused : ∀ reason, s.addInvalidReasonLocked reason =
      { write s (read s) with invalidReasons := addReason s.invalidReasons reason } := fun reason => by
    rw [addInvalidReasonLocked_eq, keep]
  unfold incrementDimensionLocked
  split
  · split
    · exact ⟨_, _, refused _, subset_addReason _ _⟩
    · exact ⟨_, _, written _, List.Subset.refl _⟩
  · split
    · exact ⟨_, _, refused _, subset_addReason _ _⟩
    · exact ⟨_, _, written _, List.Subset.refl _⟩

/-- What counting an object touches. -/
theorem countMeasurement_frame (s : Capture) (m : CaptureMeasurement) :
    ∃ received first last kinds groups reasons,
      s.countMeasurement m = { s with
        receivedTotal := received, firstObjectMonotonicNs := first, lastObjectMonotonicNs := last, byKind := kinds
        byGroupVariation := groups, invalidReasons := reasons } ∧
      s.invalidReasons ⊆ reasons ∧
      (received = s.receivedTotal + 1 ∧ s.receivedTotal ≠ maxCounter ∨ received = s.receivedTotal ∧ received = maxCounter) := by
  have tables : ∀ b : Capture, ∃ kinds groups reasons,
      (b.incrementDimensionLocked byKind (fun s d => { s with byKind := d }) m.kind).incrementDimensionLocked
        byGroupVariation (fun s d => { s with byGroupVariation := d }) (groupVariation m) =
        { b with byKind := kinds, byGroupVariation := groups, invalidReasons := reasons } ∧
      b.invalidReasons ⊆ reasons := by
    intro b
    obtain ⟨kinds, reasons, eq, grow⟩ :=
      incrementDimensionLocked_frame byKind (fun s d => { s with byKind := d }) m.kind b rfl (fun _ => rfl)
    obtain ⟨groups, reasons', eq', grow'⟩ :=
      incrementDimensionLocked_frame byGroupVariation (fun s d => { s with byGroupVariation := d }) (groupVariation m)
        { b with byKind := kinds, invalidReasons := reasons } rfl (fun _ => rfl)
    exact ⟨kinds, groups, reasons', by rw [eq, eq'], fun _ mem => grow' (grow mem)⟩
  unfold countMeasurement
  rcases incrementLocked_cases receivedTotal (fun s n => { s with receivedTotal := n }) s with
    ⟨full, eq⟩ | ⟨room, eq⟩
  · rw [eq]
    dsimp only
    obtain ⟨kinds, groups, reasons, eq', grow⟩ := tables
      { s with
        firstObjectMonotonicNs := some (s.firstObjectMonotonicNs.getD m.receivedMonotonicNs)
        lastObjectMonotonicNs := some m.receivedMonotonicNs
        invalidReasons := addReason s.invalidReasons "CAPTURE_COUNTER_OVERFLOW" }
    rw [eq']
    exact ⟨_, _, _, _, _, _, rfl, fun _ mem => grow (subset_addReason _ _ mem), .inr ⟨rfl, full⟩⟩
  · rw [eq]
    dsimp only
    obtain ⟨kinds, groups, reasons, eq', grow⟩ := tables
      { s with
        receivedTotal := s.receivedTotal + 1
        firstObjectMonotonicNs := some (s.firstObjectMonotonicNs.getD m.receivedMonotonicNs)
        lastObjectMonotonicNs := some m.receivedMonotonicNs }
    rw [eq']
    exact ⟨_, _, _, _, _, _, rfl, grow, .inl ⟨rfl, room⟩⟩

/-- What marking an object touches. -/
theorem processStatic_frame {s : Capture} (m : CaptureMeasurement) (sound : RangesSound s) :
    ∃ ranges unique duplicates unmatched sample reasons,
      s.processStatic m = { s with
        ranges, receivedUnique := unique, duplicates, unmatchedTotal := unmatched, mismatchSample := sample
        invalidReasons := reasons } ∧
      s.invalidReasons ⊆ reasons ∧ RangesSound (s.processStatic m) := by
  have unmatched : ∃ ranges unique duplicates unmatched sample reasons,
      s.recordUnmatchedLocked m = { s with
        ranges, receivedUnique := unique, duplicates, unmatchedTotal := unmatched, mismatchSample := sample
        invalidReasons := reasons } ∧
      s.invalidReasons ⊆ reasons ∧ RangesSound (s.recordUnmatchedLocked m) := by
    unfold recordUnmatchedLocked
    rcases incrementLocked_cases unmatchedTotal (fun s n => { s with unmatchedTotal := n }) s with ⟨-, eq⟩ | ⟨-, eq⟩
    · rw [eq]
      dsimp only
      split
      · exact ⟨_, _, _, _, _, _, rfl, subset_addReason _ _, { sound with }⟩
      · exact ⟨_, _, _, _, _, _, rfl, subset_addReason _ _, { sound with }⟩
    · rw [eq]
      dsimp only
      split
      · exact ⟨_, _, _, _, _, _, rfl, List.Subset.refl _, { sound with }⟩
      · exact ⟨_, _, _, _, _, _, rfl, List.Subset.refl _, { sound with }⟩
  unfold processStatic
  split
  · exact unmatched
  · split
    · exact unmatched
    · rcases incrementLocked_cases duplicates (fun s n => { s with duplicates := n }) s with ⟨-, eq⟩ | ⟨-, eq⟩
      · rw [eq]
        exact ⟨_, _, _, _, _, _, rfl, subset_addReason _ _, { sound with }⟩
      · rw [eq]
        exact ⟨_, _, _, _, _, _, rfl, List.Subset.refl _, { sound with }⟩
    · next ranges fresh =>
      obtain ⟨wide, tight, kept⟩ := markRanges_sound sound.wide sound.tight fresh
      have bits := markRanges_setBits sound.wide fresh
      have unique := sound.unique
      have total : (ranges.map (·.range.count)).sum = s.expectedTotal := by
        rw [← sound.total]
        have counts := congrArg (List.map CapturePointRange.count) kept
        simp only [List.map_map] at counts
        exact congrArg List.sum counts
      rcases incrementLocked_cases receivedUnique (fun s n => { s with receivedUnique := n }) { s with ranges } with
        ⟨-, eq⟩ | ⟨-, eq⟩
      · rw [eq]
        exact ⟨_, _, _, _, _, _, rfl, subset_addReason _ _, ⟨wide, tight, total, by simp only; omega⟩⟩
      · rw [eq]
        exact ⟨_, _, _, _, _, _, rfl, List.Subset.refl _, ⟨wide, tight, total, by simp only; omega⟩⟩

end Capture

/-- The digest of an event sequence, as a snapshot shows it. -/
inductive SequenceShown (platform : Platform) (s : Capture) : Prop where
  | off (mode : s.config.mode ≠ .eventSequence) (sha : s.receivedSequenceSha256 = none)
      (matched : s.sequenceMatch = none)
  | folding (mode : s.config.mode = .eventSequence) (sha : s.receivedSequenceSha256 = none)
      (matched : s.sequenceMatch = none) (unfinished : s.state ≠ .finalized) (lines : s.sequenceDigest.isSome = true)
  | closed (mode : s.config.mode = .eventSequence) (manifest : CaptureEventManifest) (text : Text)
      (truth : s.config.eventManifest = some manifest) (sha : s.receivedSequenceSha256 = some text)
      (digest : ∃ written, text = platform.sha256 written)
      (matched : s.sequenceMatch = some (s.receivedTotal = manifest.eventTotal &&
        text = Capture.lowercaseAscii manifest.sha256))
      (reason : s.sequenceMatch = some false → s.invalidReasons ≠ [])
      (terminal : s.state.terminal = true) (drained : s.queue = [])

/-- The relations between the fields of a capture. -/
structure Capture.Sound (platform : Platform) (s : Capture) : Prop where
  settled : s.processing = false
  accepting : s.accepting = true → s.state = .active
  empty : s.state = .idle ∨ s.state = .finalized ∨ s.state = .aborted → s.queue = []
  received : s.receivedTotal ≤ maxCounter ∧
    (s.offeredTotal = maxCounter ∨ s.receivedTotal + s.queue.length ≤ s.offeredTotal)
  lost : s.queueOverflow ≠ 0 → s.invalidReasons ≠ []
  depth : s.queue.length ≤ s.maxQueueDepth
  capacity : s.maxQueueDepth ≤ s.config.queueCapacity
  formed : s.state = .idle ∨ s.config.Formed
  ranges : RangesSound s
  static : s.config.mode = .staticSet → s.state = .finalized → s.invalidReasons = [] →
    s.missing = 0 ∧ s.duplicates = 0 ∧ s.unmatchedTotal = 0
  sequence : SequenceShown platform s

namespace Capture.Sound

variable {platform : Platform} {s : Capture}

theorem initial : Sound platform {} where
  settled := rfl
  accepting := by simp
  empty := fun _ => rfl
  received := ⟨by decide, .inr (Nat.le_refl _)⟩
  lost := by simp
  depth := Nat.le_refl _
  capacity := Nat.zero_le _
  formed := .inl rfl
  ranges := ⟨by simp, by simp, rfl, Nat.zero_le _⟩
  static := by simp
  sequence := .off (by simp) rfl rfl

/-- A capture that has just begun is sound. -/
theorem begun (s : Capture) (now session : Nat) (config : AcceptedConfig) : Sound platform (s.begun now session config.val) where
  settled := rfl
  accepting := fun _ => rfl
  empty := fun _ => rfl
  received := ⟨by simp [Capture.begun, Capture.resetLocked], .inr (Nat.le_refl _)⟩
  lost := by simp [Capture.begun, Capture.resetLocked]
  depth := Nat.le_refl _
  capacity := Nat.zero_le _
  formed := .inr (parseCaptureConfig_formed config)
  ranges :=
    { wide := by simp [Capture.begun, RangeState.Wide, Bitmap.clear]
      tight := by simp [Capture.begun, RangeState.Tight]
      total := by simp [Capture.begun, Function.comp_def]
      unique := Nat.zero_le _ }
  static := by simp [Capture.begun]
  sequence := by
    by_cases mode : config.val.mode = .eventSequence
    · exact .folding mode rfl rfl (by simp [Capture.begun]) (by simp [Capture.begun, mode])
    · exact .off mode rfl rfl

/-- A capture that still runs has no closed digest. -/
theorem sequence_running (sound : Sound platform s) (running : s.state.terminal = false ∨ s.queue ≠ []) :
    (s.config.mode ≠ .eventSequence ∧ s.receivedSequenceSha256 = none ∧ s.sequenceMatch = none) ∨
    (s.config.mode = .eventSequence ∧ s.receivedSequenceSha256 = none ∧ s.sequenceMatch = none ∧
      s.state ≠ .finalized ∧ s.sequenceDigest.isSome = true) := by
  rcases sound.sequence with ⟨mode, sha, matched⟩ | ⟨mode, sha, matched, unfinished, lines⟩ |
    ⟨mode, manifest, text, truth, sha, digest, matched, reason, terminal, drained⟩
  · exact .inl ⟨mode, sha, matched⟩
  · exact .inr ⟨mode, sha, matched, unfinished, lines⟩
  · rcases running with running | running
    · simp [terminal] at running
    · exact absurd drained running

/-- Expiry keeps the capture sound. -/
theorem expire (sound : Sound platform s) (now : Nat) : Sound platform (s.expireLocked now) := by
  unfold expireLocked
  split
  · next due =>
    rw [addInvalidReasonLocked_eq]
    refine { sound with
      accepting := by simp
      empty := by simp
      lost := fun _ => addReason_ne_nil _ _
      formed := .inr (sound.formed.resolve_left (by simp [due.1]))
      ranges := { sound.ranges with }
      static := by simp
      sequence := ?_ }
    rcases sound.sequence_running (.inl (by simp [due.1, CaptureState.terminal])) with
      ⟨mode, sha, matched⟩ | ⟨mode, sha, matched, -, lines⟩
    · exact .off mode sha matched
    · exact .folding mode sha matched (by simp) lines
  · exact sound

/-- An active capture goes on: counters, queue and reasons may change. -/
theorem active (sound : Sound platform s) (active_ : s.state = .active) {queue : List CaptureMeasurement}
    {offered overflow fragments deepest : Nat} {reasons : List Text} {first : Option Nat}
    (received : s.receivedTotal ≤ maxCounter ∧ (offered = maxCounter ∨ s.receivedTotal + queue.length ≤ offered))
    (lost : overflow ≠ 0 → reasons ≠ []) (depth : queue.length ≤ deepest)
    (capacity : deepest ≤ s.config.queueCapacity) :
    Sound platform { s with
      queue, offeredTotal := offered, queueOverflow := overflow, fragmentsTotal := fragments, maxQueueDepth := deepest
      invalidReasons := reasons, firstFragmentMonotonicNs := first } := by
  refine { sound with
    empty := by simp [active_], received, lost, depth, capacity, ranges := { sound.ranges with }
    static := by simp [active_], sequence := ?_ }
  rcases sound.sequence_running (.inl (by simp [active_, CaptureState.terminal])) with
    ⟨mode, sha, matched⟩ | ⟨mode, sha, matched, unfinished, lines⟩
  · exact .off mode sha matched
  · exact .folding mode sha matched unfinished lines

/-- A fragment keeps the capture sound. -/
theorem recordFragment (sound : Sound platform s) (now : Nat) (source : CaptureSource) (receivedAt : Nat) :
    Sound platform (s.recordFragment now source receivedAt) := by
  have sound := sound.expire now
  unfold Capture.recordFragment
  dsimp only
  generalize s.expireLocked now = s at sound
  split
  · exact sound
  · next open_ =>
    have accepting : s.accepting = true := by
      by_contra closed
      simp [closed] at open_
    have active_ := sound.accepting accepting
    rcases incrementLocked_cases fragmentsTotal (fun s n => { s with fragmentsTotal := n })
      { s with firstFragmentMonotonicNs := some (s.firstFragmentMonotonicNs.getD receivedAt) } with ⟨-, eq⟩ | ⟨-, eq⟩
    · rw [eq]
      exact sound.active active_ sound.received (fun _ => addReason_ne_nil _ _) sound.depth sound.capacity
    · rw [eq]
      exact sound.active active_ sound.received sound.lost sound.depth sound.capacity

/-- An object keeps the capture sound. -/
theorem recordObject (sound : Sound platform s) (now : Nat) (m : CaptureMeasurement) : Sound platform (s.recordObject now m) := by
  have sound := sound.expire now
  unfold Capture.recordObject
  dsimp only
  generalize s.expireLocked now = s at sound
  split
  · exact sound
  · next open_ =>
    have accepting : s.accepting = true := by
      by_contra closed
      simp [closed] at open_
    have active_ := sound.accepting accepting
    have received := sound.received
    have depth := sound.depth
    have capacity := sound.capacity
    rcases incrementLocked_cases offeredTotal (fun s n => { s with offeredTotal := n }) s with ⟨full, eq⟩ | ⟨room, eq⟩
    · rw [eq]
      dsimp only
      split
      · rcases incrementLocked_cases queueOverflow (fun s n => { s with queueOverflow := n })
          { s with invalidReasons := addReason s.invalidReasons "CAPTURE_COUNTER_OVERFLOW" } with ⟨-, eq'⟩ | ⟨-, eq'⟩
        all_goals
          rw [eq', addInvalidReasonLocked_eq]
          exact sound.active active_ received (fun _ => addReason_ne_nil _ _) depth capacity
      · next below =>
        refine sound.active active_ ⟨received.1, .inl full⟩ (fun _ => addReason_ne_nil _ _) ?_ ?_
        · simp
        · simp only [Nat.max_le]
          omega
    · rw [eq]
      dsimp only
      have grown : s.offeredTotal + 1 = maxCounter ∨ s.receivedTotal + s.queue.length + 1 ≤ s.offeredTotal + 1 := by
        omega
      split
      · have waiting : s.offeredTotal + 1 = maxCounter ∨ s.receivedTotal + s.queue.length ≤ s.offeredTotal + 1 := by
          omega
        rcases incrementLocked_cases queueOverflow (fun s n => { s with queueOverflow := n })
          { s with offeredTotal := s.offeredTotal + 1 } with ⟨-, eq'⟩ | ⟨-, eq'⟩
        all_goals
          rw [eq', addInvalidReasonLocked_eq]
          exact sound.active active_ ⟨received.1, waiting⟩ (fun _ => addReason_ne_nil _ _) depth capacity
      · next below =>
        refine sound.active active_ ⟨received.1, ?_⟩ sound.lost ?_ ?_
        · simp only [List.length_append, List.length_singleton]
          omega
        · simp
        · simp only [Nat.max_le]
          omega

/-- The worker takes the first object off the queue. -/
theorem work (sound : Sound platform s) {m : CaptureMeasurement} {rest : List CaptureMeasurement} (queue : s.queue = m :: rest) :
    Sound platform (s.work m rest) := by
  have running : ¬ (s.state = .idle ∨ s.state = .finalized ∨ s.state = .aborted) := fun ended => by
    simp [sound.empty ended] at queue
  push Not at running
  have depth := sound.depth
  have received := sound.received
  simp only [queue, List.length_cons] at depth received
  obtain ⟨total, first, last, kinds, groups, reasons, counted, grow, moved⟩ :=
    countMeasurement_frame { s with queue := rest, processing := true } m
  have lost : s.queueOverflow ≠ 0 → reasons ≠ [] := fun some_ none =>
    sound.lost some_ (List.subset_nil.mp (none ▸ grow))
  have base : ∀ {s' : Capture}, s'.processing = false → s'.accepting = s.accepting → s'.state = s.state →
      s'.queue = rest → s'.receivedTotal = total → s'.offeredTotal = s.offeredTotal →
      s'.queueOverflow = s.queueOverflow → reasons ⊆ s'.invalidReasons → s'.maxQueueDepth = s.maxQueueDepth →
      s'.config = s.config → RangesSound s' → SequenceShown platform s' → Sound platform s' := by
    intro s' processing accepting state queued total_ offered overflow reasons_ deepest config ranges sequence
    refine ⟨processing, ?_, ?_, ?_, ?_, ?_, ?_, ?_, ranges, ?_, sequence⟩
    · rw [accepting, state]
      exact sound.accepting
    · rw [state]
      intro ended
      exact absurd ended (by simp [running])
    · simp only at moved
      rw [total_, offered, queued]
      omega
    · rw [overflow]
      exact fun some_ none => lost some_ (List.subset_nil.mp (none ▸ reasons_))
    · rw [queued, deepest]
      omega
    · rw [deepest, config]
      exact sound.capacity
    · rw [state, config]
      exact sound.formed
    · rw [state]
      intro _ finalized
      exact absurd finalized running.2.1
  unfold Capture.work processLocked
  rw [counted]
  dsimp only
  have sequence := sound.sequence_running (.inr (by simp [queue]))
  cases mode : s.config.mode with
  | observation =>
    simp only [mode, ne_eq, reduceCtorEq, not_false_eq_true, true_and, false_and, or_false] at sequence
    exact base rfl rfl rfl rfl rfl rfl rfl (List.Subset.refl _) rfl rfl { sound.ranges with }
      (.off (by simp [mode]) sequence.1 sequence.2)
  | eventSequence =>
    simp only [mode, ne_eq, not_true_eq_false, true_and, false_and, false_or] at sequence
    obtain ⟨sha, matched, unfinished, digest⟩ := sequence
    obtain ⟨lines, digest⟩ := Option.isSome_iff_exists.mp digest
    rw [digest]
    exact base rfl rfl rfl rfl rfl rfl rfl (List.Subset.refl _) rfl rfl { sound.ranges with }
      (.folding mode sha matched unfinished rfl)
  | staticSet =>
    simp only [mode, ne_eq, reduceCtorEq, not_false_eq_true, true_and, false_and, or_false] at sequence
    have ranges : RangesSound { s with
        queue := rest, processing := true, receivedTotal := total, firstObjectMonotonicNs := first
        lastObjectMonotonicNs := last, byKind := kinds, byGroupVariation := groups, invalidReasons := reasons } :=
      { sound.ranges with }
    obtain ⟨marked, unique, duplicates, unmatched, sample, reasons', eq, grow', marks⟩ := processStatic_frame m ranges
    dsimp only
    rw [eq] at marks ⊢
    exact base rfl rfl rfl rfl rfl rfl rfl grow' rfl rfl { marks with } (.off (by simp [mode]) sequence.1 sequence.2)

theorem run (sound : Sound platform s) (now : Nat) : Sound platform (s.run now) := by
  have sound := sound.expire now
  unfold Capture.run
  dsimp only
  split
  · exact sound
  · next queue => exact sound.work queue

/-- The first section of `end` keeps the capture sound. -/
theorem endEnter (sound : Sound platform s) (now : Nat) (reference : CaptureReferenceConfig) :
    Sound platform (s.endEnter platform now reference).1 := by
  have sound := sound.expire now
  unfold Capture.endEnter
  dsimp only
  generalize s.expireLocked now = s at sound
  split
  · exact sound
  · dsimp only
    split
    · next active_ =>
      refine { sound with
        accepting := by simp
        empty := by simp
        formed := .inr (sound.formed.resolve_left (by simp [active_]))
        ranges := { sound.ranges with }
        static := by simp
        sequence := ?_ }
      rcases sound.sequence_running (.inl (by simp [active_, CaptureState.terminal])) with
        ⟨mode, sha, matched⟩ | ⟨mode, sha, matched, -, lines⟩
      · exact .off mode sha matched
      · exact .folding mode sha matched (by simp) lines
    · exact sound

/-- The queue is thrown away. -/
theorem discard (sound : Sound platform s) (used : s.state ≠ .idle) {reasons : List Text} (some_ : reasons ≠ []) (now : Nat) :
    Sound platform { s with
      accepting := false, discardedOnAbort := s.discardedOnAbort + s.queue.length, queue := []
      state := .aborted, endedMonotonicNs := now, invalidReasons := reasons } := by
  have received := sound.received
  refine { sound with
    accepting := by simp
    empty := fun _ => rfl
    received := ⟨received.1, by simp only [List.length_nil]; omega⟩
    lost := fun _ => some_
    depth := Nat.zero_le _
    formed := .inr (sound.formed.resolve_left used)
    ranges := { sound.ranges with }
    static := by simp
    sequence := ?_ }
  rcases sound.sequence with ⟨mode, sha, matched⟩ | ⟨mode, sha, matched, unfinished, lines⟩ |
    ⟨mode, manifest, text, truth, sha, digest, matched, reason, terminal, drained⟩
  · exact .off mode sha matched
  · exact .folding mode sha matched (by simp) lines
  · exact .closed mode manifest text truth sha digest matched (fun _ => some_) rfl rfl

/-- The digest of a drained capture is closed when it ends. -/
theorem close (sound : Sound platform s) (used : s.state ≠ .idle) (drained : s.queue = [])
    {state : CaptureState} (terminal : state.terminal = true) (ended : Nat) {reasons : List Text}
    (more : (s.finalizeEventSequenceLocked platform).invalidReasons ⊆ reasons) (idle : s.accepting = false)
    (static : s.config.mode = .staticSet → state = .finalized → reasons = [] →
      s.missing = 0 ∧ s.duplicates = 0 ∧ s.unmatchedTotal = 0) :
    Sound platform { s.finalizeEventSequenceLocked platform with
      state, endedMonotonicNs := ended, invalidReasons := reasons } := by
  have formed := sound.formed.resolve_left used
  have keep : ∀ {few : List Text}, few ⊆ reasons → few ≠ [] → reasons ≠ [] := by
    rintro few sub some_ rfl
    exact some_ (List.subset_nil.mp sub)
  have base : ∀ {sha : Option Text} {digest : Option (List Text)} {matched : Option Bool} {sample : List Json},
      s.invalidReasons ⊆ reasons →
      SequenceShown platform { s with
        receivedSequenceSha256 := sha, sequenceDigest := digest, sequenceMatch := matched, mismatchSample := sample
        state, endedMonotonicNs := ended, invalidReasons := reasons } →
      Sound platform { s with
        receivedSequenceSha256 := sha, sequenceDigest := digest, sequenceMatch := matched, mismatchSample := sample
        state, endedMonotonicNs := ended, invalidReasons := reasons } := by
    intro sha digest matched sample grow sequence
    exact { sound with
      accepting := by simp [idle]
      empty := fun _ => drained
      lost := fun some_ => keep grow (sound.lost some_)
      formed := .inr formed
      ranges := { sound.ranges with }
      static, sequence }
  rcases sound.sequence with ⟨mode, sha, matched⟩ | ⟨mode, sha, matched, unfinished, lines⟩ |
    ⟨mode, manifest, text, truth, sha, digest, matched, reason, -, -⟩
  · rw [finalizeEventSequenceLocked_done (.inl mode)] at more ⊢
    exact base more (.off mode sha matched)
  · obtain ⟨manifest, truth⟩ := Option.isSome_iff_exists.mp (formed.manifest.mp mode)
    obtain ⟨lines, digest⟩ := Option.isSome_iff_exists.mp lines
    obtain ⟨sample, grown, eq, sub, reason⟩ :=
      finalizeEventSequenceLocked_folding platform mode truth sha digest
    rw [eq] at more ⊢
    refine base (fun _ mem => more (sub mem)) (.closed mode manifest _ truth rfl ⟨_, rfl⟩ rfl (fun wrong => ?_) terminal drained)
    exact keep more (reason (Option.some.inj wrong))
  · rw [finalizeEventSequenceLocked_done (.inr (by rw [sha]; rfl))] at more ⊢
    exact base more (.closed mode manifest text truth sha digest matched (fun wrong => keep more (reason wrong)) terminal drained)

/-- Closing a sequence keeps the capture sound. -/
theorem finalizeEventSequence (sound : Sound platform s) (drained : s.queue = [])
    (terminal : s.state = .timedOut ∨ s.state = .aborted) : Sound platform (s.finalizeEventSequenceLocked platform) := by
  obtain ⟨_, _, _, _, _, eq, -⟩ := finalizeEventSequenceLocked_eq platform s
  have state : (s.finalizeEventSequenceLocked platform).state = s.state := by rw [eq]
  have ended : (s.finalizeEventSequenceLocked platform).state.terminal = true := by
    rw [state]
    rcases terminal with ended | ended <;> simp [ended, CaptureState.terminal]
  have idle : s.accepting = false := by
    by_contra accepting
    have active_ := sound.accepting (by simpa using accepting)
    simp [active_] at terminal
  refine sound.close ?_ drained ended _ (List.Subset.refl _) idle ?_
  · rcases terminal with ended | ended <;> simp [ended]
  · intro _ finalized
    rw [state] at finalized
    simp [finalized] at terminal

/-- The last section of `end` keeps the capture sound. -/
theorem endReturn (sound : Sound platform s) (now : Nat) : Sound platform (s.endReturn platform now).1 := by
  have drained_iff : s.drained = true ↔ s.queue = [] := by simp [drained, sound.settled]
  unfold Capture.endReturn endWait
  dsimp only
  by_cases waiting : s.drained = true
  · have empty := drained_iff.mp waiting
    rw [waiting, Bool.not_true, if_neg Bool.false_ne_true]
    by_cases closing : s.state = .finalizing
    · rw [if_pos closing]
      obtain ⟨_, _, _, _, _, same, -⟩ := finalizeEventSequenceLocked_eq platform s
      obtain ⟨reasons, eq, grow, clean⟩ := finalizeStaticSetLocked_eq (s.finalizeEventSequenceLocked platform)
      have idle : s.accepting = false := by
        by_contra accepting
        have active_ := sound.accepting (by simpa using accepting)
        simp [active_] at closing
      rw [eq, if_neg (by simp)]
      refine sound.close (by simp [closing]) empty rfl now grow idle ?_
      intro mode _ none
      have verdict := (clean (by rw [same]; exact mode)).mp none
      rw [same] at verdict
      dsimp only at verdict
      obtain ⟨-, complete, duplicates, unmatched⟩ := verdict
      refine ⟨?_, duplicates, unmatched⟩
      unfold missing
      split <;> omega
    · rw [if_neg closing]
      by_cases ended : s.state = .timedOut ∨ s.state = .aborted
      · by_cases late : (s.state = .timedOut ∨ s.state = .aborted) ∧ s.endedMonotonicNs = 0
        · simp only [if_pos late, if_pos ended]
          have later : Sound platform { s with endedMonotonicNs := now } := by
            refine { sound with ranges := { sound.ranges with }, sequence := ?_ }
            rcases sound.sequence with ⟨mode, sha, matched⟩ | ⟨mode, sha, matched, unfinished, lines⟩ |
              ⟨mode, manifest, text, truth, sha, digest, matched, reason, terminal, drained⟩
            · exact .off mode sha matched
            · exact .folding mode sha matched unfinished lines
            · exact .closed mode manifest text truth sha digest matched reason terminal drained
          exact later.finalizeEventSequence empty ended
        · simp only [if_neg late, if_pos ended]
          exact sound.finalizeEventSequence empty ended
      · have late : ¬ ((s.state = .timedOut ∨ s.state = .aborted) ∧ s.endedMonotonicNs = 0) := fun both => ended both.1
        simp only [if_neg late, if_neg ended]
        exact sound
  · have queued : s.queue ≠ [] := fun empty => waiting (drained_iff.mpr empty)
    have used : s.state ≠ .idle := fun idle => queued (sound.empty (.inl idle))
    rw [Bool.not_eq_true] at waiting
    rw [waiting, Bool.not_false, if_pos rfl, addInvalidReasonLocked_eq, if_pos (.inr rfl)]
    exact (sound.discard used (addReason_ne_nil _ _) now).finalizeEventSequence rfl (.inr rfl)

theorem abort (sound : Sound platform s) (now : Nat) (reason : Text) :
    Sound platform (s.abort platform now reason).1 := by
  unfold Capture.abort
  dsimp only
  split
  · next running =>
    have used : s.state ≠ .idle := by
      intro idle
      simp [abortable, idle] at running
    rw [addInvalidReasonLocked_eq]
    exact (sound.discard used (addReason_ne_nil _ _) now).finalizeEventSequence rfl (.inr rfl)
  · exact sound

end Capture.Sound

/-- Every action keeps the capture sound. -/
theorem CaptureSystem.sound_step {platform : Platform} {y : CaptureSystem} (sound : y.capture.Sound platform) (a : Action) :
    (y.step platform a).capture.Sound platform := by
  cases a with
  | begin now session config =>
    by_cases busy : (y.capture.expireLocked now).busy
    · simp only [step, Capture.begin, busy, if_true]
      exact sound.expire now
    · simp only [step, Capture.begin, busy]
      exact Capture.Sound.begun _ now session config
  | recordFragment now source receivedAt => exact sound.recordFragment now source receivedAt
  | recordObject now m => exact sound.recordObject now m
  | run now => exact sound.run now
  | progress now reference =>
    simp only [step, Capture.progress]
    split <;> exact sound.expire now
  | endEnter now reference => exact sound.endEnter now reference
  | endReturn now =>
    simp only [step]
    split
    · exact sound
    · exact sound.endReturn now
  | abort now reason => exact sound.abort now reason
  | status now => exact sound.expire now

/-- **Every run is sound**, however long it is. -/
theorem CaptureSystem.sound_runs (platform : Platform) (actions : List Action) :
    (runs platform actions).capture.Sound platform := by
  have start : ({} : CaptureSystem).capture.Sound platform := Capture.Sound.initial
  unfold runs
  generalize ({} : CaptureSystem) = y at start ⊢
  induction actions generalizing y with
  | nil => exact start
  | cons a rest ih => exact ih (y.step platform a) (sound_step start a)

end EmsDnp3.Native
