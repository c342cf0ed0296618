import EmsDnp3.Native.CaptureHistory

/-!
# The ledger of a capture

`Tracked` says where each object of a capture is. `Ledger` says that the capture's own counters
account for it: what was offered is received, queued, refused or discarded, the queue stays
within its bounds, the bitmaps hold as many bits as points were counted, and the digest of an
event sequence covers exactly the received objects.
-/

namespace EmsDnp3.Native

/-- What `parse_capture_config` establishes about the truth a mode is held against. -/
structure CaptureConfig.Formed (config : CaptureConfig) : Prop where
  manifest : config.mode = .eventSequence ↔ config.eventManifest.isSome = true
  ranges : config.mode ≠ .staticSet → config.pointRanges = []

/-- An accepted capture has the truth of its mode and no other. -/
theorem parseCaptureConfig_formed (config : AcceptedConfig) : config.val.Formed := by
  obtain ⟨config, params, ok⟩ := config
  unfold parseCaptureConfig at ok
  obtain ⟨_, -, ok⟩ := ok_bind_iff.mp ok
  obtain ⟨mode, -, ok⟩ := ok_bind_iff.mp ok
  obtain ⟨_, -, ok⟩ := ok_bind_iff.mp ok
  obtain ⟨_, -, ok⟩ := ok_bind_iff.mp ok
  obtain ⟨_, -, ok⟩ := ok_bind_iff.mp ok
  obtain ⟨_, -, ok⟩ := ok_bind_iff.mp ok
  dsimp only at ok
  split at ok
  · exact (throw_ne_ok.mp ok).elim
  · obtain rfl := ok_pure_iff.mp ok
    exact ⟨by simp, fun _ => rfl⟩
  · exact (throw_ne_ok.mp ok).elim
  · obtain ⟨_, -, ok⟩ := ok_bind_iff.mp ok
    obtain ⟨ranges, -, ok⟩ := ok_bind_iff.mp ok
    obtain rfl := ok_pure_iff.mp ok
    exact ⟨by simp, by simp⟩
  · obtain ⟨_, -, ok⟩ := ok_bind_iff.mp ok
    obtain ⟨manifest, -, ok⟩ := ok_bind_iff.mp ok
    obtain rfl := ok_pure_iff.mp ok
    exact ⟨by simp, fun _ => rfl⟩

/-- The number of set bits of the bitmaps. -/
def setBits (ranges : List RangeState) : Nat := (ranges.map fun r => r.bits.count).sum

theorem setBits_cons (r : RangeState) (rest : List RangeState) :
    setBits (r :: rest) = r.bits.count + setBits rest := by simp [setBits]

/-- Marking a fresh point sets one bit. -/
theorem markRanges_setBits {kind : Text} {index : PointIndex} {ranges after : List RangeState}
    (wide : ∀ r ∈ ranges, r.Wide) (marked : Capture.markRanges kind index ranges = some (false, after)) :
    setBits after = setBits ranges + 1 := by
  induction ranges generalizing after with
  | nil => cases marked
  | cons r rest ih =>
    rw [List.forall_mem_cons] at wide
    rw [Capture.markRanges_cons] at marked
    split at marked
    · next holds =>
      split at marked
      · simp at marked
      · next clear =>
        obtain ⟨-, rfl⟩ := Prod.mk.inj (Option.some.inj marked)
        have low : r.range.start.val ≤ index.val := holds.2.1
        have high : index.val ≤ r.range.stop.val := holds.2.2
        have bound : (index.val - r.range.start.val) / 64 < r.bits.length := by
          rw [show r.bits.length = _ from wide.1, CapturePointRange.count]
          omega
        rw [setBits_cons, setBits_cons, Bitmap.count_insert bound (by simpa using clear)]
        omega
    · obtain ⟨found, later, same⟩ := Option.map_eq_some_iff.mp marked
      obtain ⟨flag, rfl⟩ := Prod.mk.inj same
      have below : Capture.markRanges kind index rest = some (false, found.2) := by rw [later, ← flag]
      rw [setBits_cons, setBits_cons, ih wide.2 below]
      omega

/-- The canonical stream of some objects. -/
def canonicalStream (objects : List CaptureMeasurement) : List Text := objects.map Capture.canonicalLine

/-- The digest of an event sequence: open over what was received so far, or closed for good. -/
inductive Sequence (platform : Platform) (h : History) (s : Capture) : Prop where
  | off (mode : s.config.mode ≠ .eventSequence) (sha : s.receivedSequenceSha256 = none)
      (matched : s.sequenceMatch = none)
  | folding (mode : s.config.mode = .eventSequence) (sha : s.receivedSequenceSha256 = none)
      (matched : s.sequenceMatch = none) (unfinished : s.state ≠ .finalized)
      (lines : s.sequenceDigest = some (canonicalStream (h.accepted.take s.receivedTotal)))
  | closed (mode : s.config.mode = .eventSequence) (manifest : CaptureEventManifest)
      (truth : s.config.eventManifest = some manifest)
      (sha : s.receivedSequenceSha256 =
        some (platform.sha256 (canonicalStream (h.accepted.take s.receivedTotal)).flatten))
      (matched : s.sequenceMatch = some (s.receivedTotal = manifest.eventTotal &&
        platform.sha256 (canonicalStream (h.accepted.take s.receivedTotal)).flatten
          = Capture.lowercaseAscii manifest.sha256))
      (reason : s.sequenceMatch = some false → s.invalidReasons ≠ [])
      (terminal : s.state.terminal = true) (drained : s.queue = [])

/-- The counters account for every object. -/
structure Ledger (platform : Platform) (h : History) (s : Capture) : Prop where
  balance : s.offeredTotal = s.receivedTotal + s.queue.length + s.queueOverflow + s.discardedOnAbort
  lost : s.queueOverflow ≠ 0 → s.invalidReasons ≠ []
  depth : s.queue.length ≤ s.maxQueueDepth
  capacity : s.maxQueueDepth ≤ s.config.queueCapacity
  marked : s.config.mode = .staticSet → s.receivedUnique = setBits s.ranges
  formed : s.state = .idle ∨ s.config.Formed
  sequence : Sequence platform h s

namespace Ledger

variable {platform : Platform} {h : History} {s : Capture} {processed dropped : List CaptureMeasurement}

theorem initial : Ledger platform {} {} where
  balance := rfl
  lost := by simp
  depth := Nat.le_refl _
  capacity := Nat.zero_le _
  marked := by simp
  formed := .inl rfl
  sequence := .off (by simp) rfl rfl

/-- A new capture opens a new ledger. -/
theorem begin (s : Capture) (now session : Nat) (config : AcceptedConfig) :
    Ledger platform { config := config.val } (s.begun now session config.val) where
  balance := rfl
  lost := by simp [Capture.begun, Capture.resetLocked]
  depth := Nat.le_refl _
  capacity := Nat.zero_le _
  marked := fun _ => by simp [Capture.begun, Capture.resetLocked, setBits, Function.comp_def]
  formed := .inr (parseCaptureConfig_formed config)
  sequence := by
    by_cases mode : config.val.mode = .eventSequence
    · exact .folding mode rfl rfl (by simp [Capture.begun]) (by simp [Capture.begun, mode, canonicalStream])
    · exact .off mode rfl rfl

/-- An active capture has no closed digest. -/
theorem sequence_running (l : Ledger platform h s) (running : s.state.terminal = false ∨ s.queue ≠ []) :
    (s.config.mode ≠ .eventSequence ∧ s.receivedSequenceSha256 = none ∧ s.sequenceMatch = none) ∨
    (s.config.mode = .eventSequence ∧ s.receivedSequenceSha256 = none ∧ s.sequenceMatch = none ∧
      s.state ≠ .finalized ∧ s.sequenceDigest = some (canonicalStream (h.accepted.take s.receivedTotal))) := by
  rcases l.sequence with ⟨mode, sha, matched⟩ | ⟨mode, sha, matched, unfinished, lines⟩ |
    ⟨mode, manifest, truth, sha, matched, reason, terminal, drained⟩
  · exact .inl ⟨mode, sha, matched⟩
  · exact .inr ⟨mode, sha, matched, unfinished, lines⟩
  · rcases running with running | running
    · simp [terminal] at running
    · exact absurd drained running

/-- Only the accepted objects of a history matter to the ledger. -/
theorem congr (l : Ledger platform h s) {h' : History} (same : h'.accepted = h.accepted) : Ledger platform h' s := by
  refine { l with sequence := ?_ }
  rcases l.sequence with ⟨mode, sha, matched⟩ | ⟨mode, sha, matched, unfinished, lines⟩ |
    ⟨mode, manifest, truth, sha, matched, reason, terminal, drained⟩
  · exact .off mode sha matched
  · exact .folding mode sha matched unfinished (same ▸ lines)
  · exact .closed mode manifest truth (same ▸ sha) (same ▸ matched) reason terminal drained

/-- Expiry moves what was queued to what was discarded. -/
theorem expire (l : Ledger platform h s) (now : Nat) : Ledger platform (h.expire now s) (s.expireLocked now) := by
  unfold History.expire Capture.expireLocked
  split
  · next due =>
    rw [Capture.addInvalidReasonLocked_eq]
    refine { l with
      lost := fun _ => Capture.addReason_ne_nil _ _
      formed := .inr (l.formed.resolve_left (by simp [due.1]))
      sequence := ?_ }
    rcases l.sequence_running (.inl (by simp [due.1, CaptureState.terminal])) with
      ⟨mode, sha, matched⟩ | ⟨mode, sha, matched, -, lines⟩
    · exact .off mode sha matched
    · exact .folding mode sha matched (by simp) lines
  · exact l

/-- A fragment is counted. -/
theorem fragment (l : Ledger platform h s) (first : Option Nat) (count : Nat) :
    Ledger platform { h with fragments := h.fragments + 1 }
      { s with firstFragmentMonotonicNs := first, fragmentsTotal := count } := by
  refine { l with sequence := ?_ }
  rcases l.sequence with ⟨mode, sha, matched⟩ | ⟨mode, sha, matched, unfinished, lines⟩ |
    ⟨mode, manifest, truth, sha, matched, reason, terminal, drained⟩
  · exact .off mode sha matched
  · exact .folding mode sha matched unfinished lines
  · exact .closed mode manifest truth sha matched reason terminal drained

/-- The time of the end is no entry. -/
theorem ended (l : Ledger platform h s) (now : Nat) : Ledger platform h { s with endedMonotonicNs := now } := by
  refine { l with sequence := ?_ }
  rcases l.sequence with ⟨mode, sha, matched⟩ | ⟨mode, sha, matched, unfinished, lines⟩ |
    ⟨mode, manifest, truth, sha, matched, reason, terminal, drained⟩
  · exact .off mode sha matched
  · exact .folding mode sha matched unfinished lines
  · exact .closed mode manifest truth sha matched reason terminal drained

/-- An object in the queue is an entry on both sides. -/
theorem enqueue (l : Ledger platform h s) (active : s.state = .active) (room : s.queue.length < s.config.queueCapacity)
    (received : s.receivedTotal ≤ h.accepted.length) (m : CaptureMeasurement) :
    Ledger platform { h with accepted := h.accepted ++ [m] }
      { s with
        offeredTotal := s.offeredTotal + 1, queue := s.queue ++ [m]
        maxQueueDepth := max s.maxQueueDepth (s.queue.length + 1) } := by
  have balance := l.balance
  have capacity := l.capacity
  refine { l with balance := ?_, depth := ?_, capacity := ?_, sequence := ?_ }
  · simp only [List.length_append, List.length_singleton]
    omega
  · simp
  · simp only [Nat.max_le]
    omega
  · rcases l.sequence_running (.inl (by simp [active, CaptureState.terminal])) with
      ⟨mode, sha, matched⟩ | ⟨mode, sha, matched, unfinished, lines⟩
    · exact .off mode sha matched
    · refine .folding mode sha matched unfinished ?_
      rw [List.take_append_of_le_length received]
      exact lines

/-- An object that was refused is an entry on both sides. -/
theorem refuse (l : Ledger platform h s) (active : s.state = .active) {reasons : List Text} (some_ : reasons ≠ []) :
    Ledger platform { h with rejected := h.rejected + 1 }
      { s with
        offeredTotal := s.offeredTotal + 1, queueOverflow := s.queueOverflow + 1, invalidReasons := reasons } := by
  have balance := l.balance
  refine { l with balance := ?_, lost := fun _ => some_, sequence := ?_ }
  · simp only
    omega
  · rcases l.sequence_running (.inl (by simp [active, CaptureState.terminal])) with
      ⟨mode, sha, matched⟩ | ⟨mode, sha, matched, unfinished, lines⟩
    · exact .off mode sha matched
    · exact .folding mode sha matched unfinished lines

/-- A closing capture takes no more objects. -/
theorem close (l : Ledger platform h s) (active : s.state = .active) :
    Ledger platform { h with closed := true } { s with state := .finalizing, accepting := false } := by
  refine { l with formed := .inr (l.formed.resolve_left (by simp [active])), sequence := ?_ }
  rcases l.sequence_running (.inl (by simp [active, CaptureState.terminal])) with
    ⟨mode, sha, matched⟩ | ⟨mode, sha, matched, -, lines⟩
  · exact .off mode sha matched
  · exact .folding mode sha matched (by simp) lines

/-- The queue is thrown away; a digest that is still open stays so. -/
theorem discard (l : Ledger platform h s) (used : s.state ≠ .idle) {reasons : List Text} (some_ : reasons ≠ [])
    (now : Nat) :
    Ledger platform h
      { s with
        accepting := false, discardedOnAbort := s.discardedOnAbort + s.queue.length, queue := []
        state := .aborted, endedMonotonicNs := now, invalidReasons := reasons } := by
  have balance := l.balance
  refine { l with
    balance := ?_, lost := fun _ => some_, depth := Nat.zero_le _
    formed := .inr (l.formed.resolve_left used), sequence := ?_ }
  · simp only [List.length_nil]
    omega
  · rcases l.sequence with ⟨mode, sha, matched⟩ | ⟨mode, sha, matched, unfinished, lines⟩ |
      ⟨mode, manifest, truth, sha, matched, reason, terminal, drained⟩
    · exact .off mode sha matched
    · exact .folding mode sha matched (by simp) lines
    · exact .closed mode manifest truth sha matched (fun _ => some_) rfl rfl

end Ledger

namespace Capture

/-- The digest is closed over the lines it was fed. -/
theorem finalizeEventSequenceLocked_folding (platform : Platform) {s : Capture} {lines : List Text}
    {manifest : CaptureEventManifest} (mode : s.config.mode = .eventSequence)
    (truth : s.config.eventManifest = some manifest) (sha : s.receivedSequenceSha256 = none)
    (folding : s.sequenceDigest = some lines) :
    ∃ sample reasons, s.finalizeEventSequenceLocked platform = { s with
        receivedSequenceSha256 := some (platform.sha256 lines.flatten), sequenceDigest := none
        sequenceMatch := some (s.receivedTotal = manifest.eventTotal &&
          platform.sha256 lines.flatten = lowercaseAscii manifest.sha256)
        mismatchSample := sample, invalidReasons := reasons } ∧
      s.invalidReasons ⊆ reasons ∧
      ((s.receivedTotal = manifest.eventTotal && platform.sha256 lines.flatten = lowercaseAscii manifest.sha256)
        = false → reasons ≠ []) := by
  unfold finalizeEventSequenceLocked
  rw [if_neg (by simp [mode, sha]), folding, truth]
  dsimp only
  generalize matches_ : (s.receivedTotal = manifest.eventTotal &&
    platform.sha256 lines.flatten = lowercaseAscii manifest.sha256 : Bool) = matched
  cases matched with
  | true => exact ⟨_, _, rfl, List.Subset.refl _, by simp⟩
  | false =>
    rw [addInvalidReasonLocked_eq]
    dsimp only
    split
    · next absurd_ => cases absurd_
    · split
      · exact ⟨_, _, rfl, subset_addReason _ _, fun _ => addReason_ne_nil _ _⟩
      · exact ⟨_, _, rfl, subset_addReason _ _, fun _ => addReason_ne_nil _ _⟩

/-- The worker sets a bit when it counts a new point, and only then. -/
theorem processStatic_setBits {s : Capture} (m : CaptureMeasurement) (wide : ∀ r ∈ s.ranges, r.Wide)
    (small : s.receivedUnique + s.duplicates + s.unmatchedTotal < maxCounter)
    (marked : s.receivedUnique = setBits s.ranges) :
    ∃ ranges unique duplicates unmatched sample,
      s.processStatic m = { s with
        ranges, receivedUnique := unique, duplicates, unmatchedTotal := unmatched, mismatchSample := sample } ∧
      unique = setBits ranges := by
  have unmatched : ∃ sample, s.recordUnmatchedLocked m =
      { s with unmatchedTotal := s.unmatchedTotal + 1, mismatchSample := sample } :=
    recordUnmatchedLocked_eq m (by omega)
  unfold processStatic
  split
  · obtain ⟨sample, eq⟩ := unmatched
    exact ⟨_, _, _, _, sample, eq, marked⟩
  · split
    · obtain ⟨sample, eq⟩ := unmatched
      exact ⟨_, _, _, _, sample, eq, marked⟩
    · exact ⟨_, _, _, _, _, incrementLocked_of_lt _ _ (show s.duplicates < maxCounter by omega), marked⟩
    · next ranges fresh =>
      exact ⟨_, _, _, _, _, incrementLocked_of_lt _ _ (show s.receivedUnique < maxCounter by omega),
        by rw [markRanges_setBits wide fresh, marked]⟩

theorem finalizeEventSequenceLocked_done {platform : Platform} {s : Capture}
    (done : s.config.mode ≠ .eventSequence ∨ s.receivedSequenceSha256.isSome) :
    s.finalizeEventSequenceLocked platform = s := if_pos done

end Capture

namespace Ledger

variable {platform : Platform} {h : History} {s : Capture} {processed dropped : List CaptureMeasurement}

/-- A drained capture ends: its digest is closed, if it has one. -/
theorem finalize (l : Ledger platform h s) (used : s.state ≠ .idle) (drained : s.queue = []) {state : CaptureState}
    (terminal : state.terminal = true) (ended : Nat) {reasons : List Text}
    (more : (s.finalizeEventSequenceLocked platform).invalidReasons ⊆ reasons) :
    Ledger platform h { s.finalizeEventSequenceLocked platform with
      state, endedMonotonicNs := ended, invalidReasons := reasons } := by
  have formed := l.formed.resolve_left used
  have keep : ∀ {few : List Text}, few ⊆ reasons → few ≠ [] → reasons ≠ [] := by
    rintro few sub some_ rfl
    exact some_ (List.subset_nil.mp sub)
  rcases l.sequence with ⟨mode, sha, matched⟩ | ⟨mode, sha, matched, unfinished, lines⟩ |
    ⟨mode, manifest, truth, sha, matched, reason, -, -⟩
  · rw [Capture.finalizeEventSequenceLocked_done (.inl mode)] at more ⊢
    exact { l with lost := fun some_ => keep more (l.lost some_), formed := .inr formed, sequence := .off mode sha matched }
  · obtain ⟨manifest, truth⟩ := Option.isSome_iff_exists.mp (formed.manifest.mp mode)
    obtain ⟨sample, grown, eq, sub, reason⟩ :=
      Capture.finalizeEventSequenceLocked_folding platform mode truth sha lines
    rw [eq] at more ⊢
    refine { l with
      lost := fun some_ => keep more (fun nil => ?_), formed := .inr formed
      sequence := .closed mode manifest truth rfl rfl (fun wrong => keep more (reason ?_)) terminal drained }
    · simp only at nil
      exact l.lost some_ (List.subset_nil.mp (nil ▸ sub))
    · exact Option.some.inj wrong
  · rw [Capture.finalizeEventSequenceLocked_done (.inr (by rw [sha]; rfl))] at more ⊢
    exact { l with
      lost := fun some_ => keep more (l.lost some_), formed := .inr formed
      sequence := .closed mode manifest truth sha matched (fun wrong => keep more (reason wrong)) terminal drained }

/-- The digest that is written is the one over the received objects. -/
theorem finalizeEventSequence (l : Ledger platform h s) (drained : s.queue = []) (terminal : s.state.terminal = true) :
    Ledger platform h (s.finalizeEventSequenceLocked platform) := by
  obtain ⟨_, _, _, _, _, eq, -⟩ := Capture.finalizeEventSequenceLocked_eq platform s
  have state : (s.finalizeEventSequenceLocked platform).state = s.state := by rw [eq]
  have used : s.state ≠ .idle := by
    intro idle
    simp [idle, CaptureState.terminal] at terminal
  have ended : (s.finalizeEventSequenceLocked platform).state.terminal = true := by rw [state]; exact terminal
  exact l.finalize used drained ended _ (List.Subset.refl _)

/-- The worker takes the first object off the queue. -/
theorem work (l : Ledger platform h s) (t : Tracked h s processed dropped) {m : CaptureMeasurement}
    {rest : List CaptureMeasurement} (queue : s.queue = m :: rest) (countable : h.Countable) :
    Ledger platform h (s.work m rest) := by
  have running : s.state ≠ .aborted := fun aborted => by simp [t.empty (Or.inr (Or.inr aborted))] at queue
  have accepted : h.accepted = processed ++ m :: rest := by simp [t.split, t.kept running, queue]
  have small : processed.length < maxCounter := by
    have := congrArg List.length accepted
    have := countable.1
    simp only [History.offered, List.length_append, List.length_cons, maxCounter] at *
    omega
  have balance := l.balance
  have depth := l.depth
  simp only [queue, List.length_cons] at balance depth
  obtain ⟨first, last, byKind, byGroup, reasons, counted, -, -, grow, -⟩ :=
    Capture.countMeasurement_eq (s := { s with queue := rest, processing := true }) m t.received small t.kinds t.groups
  have lost : s.queueOverflow ≠ 0 → reasons ≠ [] := fun some_ none =>
    l.lost some_ (List.subset_nil.mp (none ▸ grow))
  have base : ∀ {s' : Capture}, s'.offeredTotal = s.offeredTotal → s'.receivedTotal = s.receivedTotal + 1 →
      s'.queue = rest → s'.queueOverflow = s.queueOverflow → s'.discardedOnAbort = s.discardedOnAbort →
      s'.invalidReasons = reasons → s'.maxQueueDepth = s.maxQueueDepth → s'.config = s.config → s'.state = s.state →
      (s'.config.mode = .staticSet → s'.receivedUnique = setBits s'.ranges) → Sequence platform h s' →
      Ledger platform h s' := by
    intro s' offered received queued overflow discarded reasons_ deepest config state marked sequence
    refine ⟨?_, ?_, ?_, ?_, marked, ?_, sequence⟩
    · rw [offered, received, queued, overflow, discarded]
      omega
    · rw [overflow, reasons_]
      exact lost
    · rw [queued, deepest]
      omega
    · rw [deepest, config]
      exact l.capacity
    · rw [state, config]
      exact l.formed
  unfold Capture.work Capture.processLocked
  rw [counted]
  dsimp only
  cases mode : s.config.mode with
  | observation =>
    have sequence := l.sequence_running (.inr (by simp [queue]))
    simp only [mode, ne_eq, reduceCtorEq, not_false_eq_true, true_and, false_and, or_false] at sequence
    exact base rfl rfl rfl rfl rfl rfl rfl rfl rfl (by simp [mode])
      (.off (by simp [mode]) sequence.1 sequence.2)
  | eventSequence =>
    have sequence := l.sequence_running (.inr (by simp [queue]))
    simp only [mode, ne_eq, not_true_eq_false, true_and, false_and, false_or] at sequence
    obtain ⟨sha, matched, unfinished, lines⟩ := sequence
    rw [lines]
    refine base rfl rfl rfl rfl rfl rfl rfl rfl rfl (by simp [mode]) (.folding mode sha matched unfinished ?_)
    have folded : h.accepted.take (s.receivedTotal + 1) = h.accepted.take s.receivedTotal ++ [m] := by
      rw [t.received, accepted, List.take_length_add_append, List.take_left']
      · simp
      · rfl
    simp [folded, canonicalStream]
  | staticSet =>
    have static := t.static mode
    have sequence := l.sequence_running (.inr (by simp [queue]))
    simp only [mode, ne_eq, reduceCtorEq, not_false_eq_true, true_and, false_and, or_false] at sequence
    have total := static.points.tally.length_eq
    rw [List.length_map] at total
    obtain ⟨ranges, unique, duplicates, unmatched, sample, eq, marked⟩ := Capture.processStatic_setBits
      (s := { s with
        queue := rest, processing := true, receivedTotal := s.receivedTotal + 1, firstObjectMonotonicNs := first
        lastObjectMonotonicNs := last, byKind, byGroupVariation := byGroup, invalidReasons := reasons })
      m static.points.wide (by simp only; omega) (l.marked mode)
    dsimp only
    rw [eq]
    exact base rfl rfl rfl rfl rfl rfl rfl rfl rfl (fun _ => marked) (.off (by simp [mode]) sequence.1 sequence.2)

/-- A turn of the worker. -/
theorem run (l : Ledger platform h s) (t : Tracked h s processed dropped) (now : Nat) (countable : h.Countable) :
    Ledger platform (h.expire now s) (s.run now) := by
  have l := l.expire now
  have t := t.expire now
  have countable : (h.expire now s).Countable := by simpa [History.Countable] using countable
  unfold Capture.run
  dsimp only
  split
  · exact l
  · next queue => exact l.work t queue countable

/-- A received fragment. -/
theorem recordFragment (l : Ledger platform h s) (t : Tracked h s processed dropped) (now : Nat)
    (source : CaptureSource) (receivedAt draining : Nat)
    (small : (h.observe ⟨s, draining⟩ (.recordFragment now source receivedAt)).fragments < 2 ^ 64) :
    Ledger platform (h.observe ⟨s, draining⟩ (.recordFragment now source receivedAt))
      (s.recordFragment now source receivedAt) := by
  have l := l.expire now
  have t := t.expire now
  simp only [History.observe, Capture.recordFragment] at small ⊢
  generalize s.expireLocked now = s, h.expire now s = h at l t small ⊢
  rw [t.accepts]
  by_cases accepted : s.state = .active ∧ source ∈ s.config.sources
  · rw [if_pos accepted] at small ⊢
    rw [decide_eq_true accepted, Bool.not_true, if_neg Bool.false_ne_true]
    have bound : s.fragmentsTotal < maxCounter := by
      have small : h.fragments + 1 < 2 ^ 64 := small
      rw [t.fragments, maxCounter]
      omega
    rw [Capture.incrementLocked_of_lt _ _ (by exact bound)]
    exact l.fragment _ _
  · simpa only [accepted, if_false, decide_false, Bool.not_false, if_true] using l

/-- An offered object. -/
theorem recordObject (l : Ledger platform h s) (t : Tracked h s processed dropped) (now : Nat)
    (m : CaptureMeasurement) (draining : Nat)
    (small : (h.observe ⟨s, draining⟩ (.recordObject now m)).offered < 2 ^ 64) :
    Ledger platform (h.observe ⟨s, draining⟩ (.recordObject now m)) (s.recordObject now m) := by
  have l := l.expire now
  have t := t.expire now
  simp only [History.observe, Capture.recordObject] at small ⊢
  generalize s.expireLocked now = s, h.expire now s = h at l t small ⊢
  rw [t.accepts]
  by_cases accepted : s.state = .active ∧ m.source ∈ s.config.sources
  · rw [if_pos accepted] at small ⊢
    rw [decide_eq_true accepted, Bool.not_true, if_neg Bool.false_ne_true]
    have bound : h.offered + 1 < 2 ^ 64 → s.offeredTotal < maxCounter := fun small => by
      rw [t.offered, maxCounter]
      omega
    have counted := fun small =>
      Capture.incrementLocked_of_lt Capture.offeredTotal (fun s n => { s with offeredTotal := n }) (bound small)
    by_cases full : s.config.queueCapacity ≤ s.queue.length
    · rw [if_pos full] at small ⊢
      have small : h.offered + 1 < 2 ^ 64 := by simpa [History.offered, Nat.add_assoc] using small
      have balance := l.balance
      have room := bound small
      have overflow := Capture.incrementLocked_of_lt Capture.queueOverflow (fun s n => { s with queueOverflow := n })
        (s := { s with offeredTotal := s.offeredTotal + 1 }) (show s.queueOverflow < maxCounter by omega)
      rw [counted small, if_pos full, overflow, Capture.addInvalidReasonLocked_eq]
      exact l.refuse accepted.1 (Capture.addReason_ne_nil _ _)
    · rw [if_neg full] at small ⊢
      rw [counted (by simpa [History.offered, Nat.add_assoc, Nat.add_comm] using small), if_neg full]
      refine l.enqueue accepted.1 (by omega) ?_ m
      rw [t.received, t.split]
      simp
  · simpa only [accepted, if_false, decide_false, Bool.not_false, if_true] using l

/-- The first section of `end`. -/
theorem endEnter (l : Ledger platform h s) (now : Nat) (reference : CaptureReferenceConfig) (draining : Nat) :
    Ledger platform (h.observe ⟨s, draining⟩ (.endEnter now reference)) (s.endEnter platform now reference).1 := by
  have l := l.expire now
  simp only [History.observe, Capture.endEnter]
  generalize s.expireLocked now = s at l ⊢
  unfold Capture.validateReferenceLocked
  by_cases named : s.state ≠ .idle ∧ reference.captureId = s.captureId
  · rw [if_pos named]
    by_cases active : s.state = .active
    · rw [if_pos ⟨active, named.2⟩, if_pos active]
      exact l.close active
    · rw [if_neg fun both => active both.1, if_neg active]
      exact l
  · rw [if_neg named, if_neg fun both => named ⟨by simp [both.1], both.2⟩]
    exact l

/-- The last section of `end`. -/
theorem endReturn (l : Ledger platform h s) (t : Tracked h s processed dropped) (now : Nat) :
    Ledger platform h (s.endReturn platform now).1 := by
  have drained_iff : s.drained = true ↔ s.queue = [] := by simp [Capture.drained, t.settled]
  unfold Capture.endReturn Capture.endWait
  dsimp only
  by_cases waiting : s.drained = true
  · have empty := drained_iff.mp waiting
    rw [waiting, Bool.not_true, if_neg Bool.false_ne_true]
    by_cases closing : s.state = .finalizing
    · rw [if_pos closing]
      obtain ⟨reasons, eq, grow, -⟩ := Capture.finalizeStaticSetLocked_eq (s.finalizeEventSequenceLocked platform)
      rw [eq, if_neg (by simp)]
      exact l.finalize (by simp [closing]) empty rfl now grow
    · rw [if_neg closing]
      by_cases ended : s.state = .timedOut ∨ s.state = .aborted
      · have terminal : s.state.terminal = true := by
          rcases ended with ended | ended <;> simp [ended, CaptureState.terminal]
        have used : s.state ≠ .idle := by
          rcases ended with ended | ended <;> simp [ended]
        split
        · exact (l.ended now).finalizeEventSequence empty terminal
        · exact l.finalizeEventSequence empty terminal
      · have unended : ¬ ((s.state = .timedOut ∨ s.state = .aborted) ∧ s.endedMonotonicNs = 0) := fun both => ended both.1
        simp only [if_neg unended, if_neg ended]
        exact l
  · have queued : s.queue ≠ [] := fun empty => waiting (drained_iff.mpr empty)
    have used : s.state ≠ .idle := fun idle => queued (t.empty (.inl idle))
    rw [Bool.not_eq_true] at waiting
    rw [waiting, Bool.not_false, if_pos rfl, Capture.addInvalidReasonLocked_eq, if_pos (.inr rfl)]
    exact (l.discard used (Capture.addReason_ne_nil _ _) now).finalizeEventSequence rfl rfl

/-- An abort. -/
theorem abort (l : Ledger platform h s) (now : Nat) (reason : Text) :
    Ledger platform h (s.abort platform now reason).1 := by
  unfold Capture.abort
  dsimp only
  split
  · next running =>
    have used : s.state ≠ .idle := by
      intro idle
      simp [Capture.abortable, idle] at running
    rw [Capture.addInvalidReasonLocked_eq]
    exact (l.discard used (Capture.addReason_ne_nil _ _) now).finalizeEventSequence rfl rfl
  · exact l

end Ledger

/-- As long as no counter can be full, the ledger is kept. -/
def Booked (platform : Platform) (y : CaptureSystem) (h : History) : Prop :=
  h.Countable → Ledger platform h y.capture

/-- Every action keeps the books. -/
theorem Booked.step {platform : Platform} {y : CaptureSystem} {h : History} (inv : Invariant y h)
    (booked : Booked platform y h) (a : Action) : Booked platform (y.step platform a) (h.observe y a) := by
  intro countable
  rcases History.observe_countable countable with before | ⟨now, session, config, rfl, free⟩
  · obtain ⟨processed, dropped, t⟩ := inv before
    have l := booked before
    cases a with
    | begin now session config =>
      by_cases busy : (y.capture.expireLocked now).busy
      · simp only [CaptureSystem.step, Capture.begin, History.observe, busy, if_true]
        exact l.expire now
      · simp only [CaptureSystem.step, Capture.begin, History.observe, busy]
        exact Ledger.begin _ now session config
    | recordFragment now source receivedAt =>
      exact l.recordFragment t now source receivedAt y.draining countable.2
    | recordObject now m => exact l.recordObject t now m y.draining countable.1
    | run now => exact l.run t now before
    | progress now reference =>
      simp only [CaptureSystem.step, Capture.progress, History.observe]
      split <;> exact l.expire now
    | endEnter now reference => exact l.endEnter now reference y.draining
    | endReturn now =>
      simp only [CaptureSystem.step, History.observe]
      by_cases idle : y.draining = 0
      · simpa only [idle, if_true] using l
      · simp only [idle, if_false]
        refine (l.endReturn t now).congr ?_
        split
        · rfl
        · split <;> rfl
    | abort now reason =>
      refine (l.abort now reason).congr ?_
      simp only [History.observe]
      split <;> rfl
    | status now => exact l.expire now
  · simp only [CaptureSystem.step, Capture.begin, History.observe, free]
    exact Ledger.begin _ now session config

/-- **Every run keeps its ledger.** -/
theorem booked_runs (platform : Platform) (actions : List Action) :
    Booked platform (History.runs platform actions).1 (History.runs platform actions).2 := by
  have start : Invariant {} {} := fun _ => ⟨[], [], Tracked.initial⟩
  have ledger : Booked platform {} {} := fun _ => Ledger.initial
  unfold History.runs
  generalize ({} : CaptureSystem) = y, ({} : History) = h at start ledger ⊢
  induction actions generalizing y h with
  | nil => exact ledger
  | cons a rest ih => exact ih (y.step platform a) (h.observe y a) (start.step platform a) (ledger.step start a)

end EmsDnp3.Native
