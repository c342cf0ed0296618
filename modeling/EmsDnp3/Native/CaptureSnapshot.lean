import EmsDnp3.Native.CaptureSound

/-!
# What a snapshot shows

The parts of a capture that a snapshot shows as they are: its name, its configuration, its
reasons, its samples and its tables of names. `Shown.Ok` is what a reader may rely on, in every
state of every run whose callers name sessions, reasons and kinds.
-/

namespace EmsDnp3.Native

/-! ## Accepted configurations -/

/-- A token that was read is printable. -/
theorem readToken_printable {object : Json} {key : String} {path : Text} {maximum : Nat} {value : Text}
    (ok : readToken object key path maximum = .ok value) : isPrintableAsciiToken value maximum = true := by
  unfold readToken at ok
  split at ok
  · cases ok
  · split at ok
    · next printable =>
      obtain rfl := Except.ok.inj ok
      exact printable
    · cases ok
  · cases ok

/-- Each source that is read was not there before. -/
theorem parseSourceItems_nodup {index : Nat} {seen found : List CaptureSource} {items : List Json}
    (nodup : seen.Nodup) (ok : parseSourceItems index seen items = .ok found) :
    found.Nodup ∧ found.length = seen.length + items.length := by
  induction items generalizing index seen with
  | nil =>
    obtain rfl := Except.ok.inj ok
    exact ⟨nodup, rfl⟩
  | cons item items ih =>
    match item with
    | .null | .bool _ | .int _ | .float _ | .arr _ | .obj _ => cases ok
    | .str name =>
      rw [parseSourceItems] at ok
      split at ok
      · cases ok
      · next source _ =>
        split at ok
        · cases ok
        · next fresh =>
          have fresh : source ∉ seen := by simpa using fresh
          obtain ⟨unique, length⟩ := ih (List.Nodup.append nodup (by simp) (by simpa using fresh)) ok
          refine ⟨unique, ?_⟩
          rw [length]
          simp
          omega

/-- One or two distinct sources. -/
theorem parseSources_bounds {params : Json} {sources : List CaptureSource} (ok : parseSources params = .ok sources) :
    sources.Nodup ∧ 1 ≤ sources.length ∧ sources.length ≤ 2 := by
  unfold parseSources at ok
  obtain ⟨items, -, ok⟩ := ok_bind_iff.mp ok
  obtain ⟨_, count, ok⟩ := ok_bind_iff.mp ok
  obtain ⟨nodup, length⟩ := parseSourceItems_nodup List.nodup_nil ok
  simp only [rejectIf_ok, Bool.or_eq_false_iff, decide_eq_false_iff_not, kMaximumSources] at count
  have some_ : items.length ≠ 0 := by simpa using count.1
  have few : ¬ 2 < items.length := of_decide_eq_false count.2
  rw [List.length_nil, Nat.zero_add] at length
  exact ⟨nodup, by omega, by omega⟩

/-- What an accepted manifest is. -/
structure CaptureEventManifest.Formed (m : CaptureEventManifest) : Prop where
  texts : ∀ value ∈ [m.generator, m.generatorVersion, m.scenarioId], isPrintableAsciiToken value 128 = true
  numbers : m.seed ≤ 2 ^ 63 - 1 ∧ m.startSequence ≤ 2 ^ 63 - 1 ∧ m.endSequence ≤ 2 ^ 63 - 1
  total : 1 ≤ m.eventTotal ∧ m.eventTotal ≤ 1000000000
  range : m.startSequence ≤ m.endSequence ∧ m.endSequence - m.startSequence + 1 = m.eventTotal
  digest : ∃ written, isSha256 written = true ∧ m.sha256 = written.map toLower
  rule : m.matchRule = text "ordered_kind_index_value"

/-- An accepted manifest has counted its events. -/
theorem parseEventManifest_formed {expected : Json} {m : CaptureEventManifest}
    (ok : parseEventManifest expected = .ok m) : m.Formed := by
  unfold parseEventManifest at ok
  obtain ⟨_, -, ok⟩ := ok_bind_iff.mp ok
  split at ok
  · exact (throw_ne_ok.mp ok).elim
  · obtain ⟨_, -, ok⟩ := ok_bind_iff.mp ok
    obtain ⟨generator, generatorOk, ok⟩ := ok_bind_iff.mp ok
    obtain ⟨version, versionOk, ok⟩ := ok_bind_iff.mp ok
    obtain ⟨scenario, scenarioOk, ok⟩ := ok_bind_iff.mp ok
    dsimp only at ok
    obtain ⟨seed, seedOk, ok⟩ := ok_bind_iff.mp ok
    obtain ⟨first, firstOk, ok⟩ := ok_bind_iff.mp ok
    obtain ⟨last, lastOk, ok⟩ := ok_bind_iff.mp ok
    obtain ⟨total, totalOk, ok⟩ := ok_bind_iff.mp ok
    obtain ⟨_, consistent, ok⟩ := ok_bind_iff.mp ok
    obtain ⟨written, -, ok⟩ := ok_bind_iff.mp ok
    obtain ⟨_, hex, ok⟩ := ok_bind_iff.mp ok
    obtain ⟨rule, -, ok⟩ := ok_bind_iff.mp ok
    obtain ⟨_, known, ok⟩ := ok_bind_iff.mp ok
    obtain rfl := ok_pure_iff.mp ok
    simp only [rejectIf_ok, Bool.or_eq_false_iff, decide_eq_false_iff_not, not_lt, not_not, gt_iff_lt, ne_eq,
      Bool.not_eq_eq_eq_not, Bool.not_false] at consistent hex known
    refine ⟨?_, ⟨(readUnsigned_bounds seedOk (.inl rfl)).2, (readUnsigned_bounds firstOk (.inl rfl)).2,
      (readUnsigned_bounds lastOk (.inl rfl)).2⟩, readUnsigned_bounds totalOk (.inl rfl), consistent, ⟨written, hex, rfl⟩,
      known⟩
    simp only [List.mem_cons, List.not_mem_nil, or_false, forall_eq_or_imp, forall_eq]
    exact ⟨readToken_printable generatorOk, readToken_printable versionOk, readToken_printable scenarioOk⟩

/-- What every accepted configuration satisfies. -/
structure CaptureConfig.Bounded (config : CaptureConfig) : Prop where
  sources : config.sources.Nodup ∧ 1 ≤ config.sources.length ∧ config.sources.length ≤ 2
  sample : config.mismatchSampleLimit ≤ 1024
  capacity : 1 ≤ config.queueCapacity ∧ config.queueCapacity ≤ 65536
  manifest : ∀ m, config.eventManifest = some m → m.Formed

/-- An accepted capture stays within the limits of the protocol. -/
theorem parseCaptureConfig_bounded (config : AcceptedConfig) : config.val.Bounded := by
  obtain ⟨config, params, ok⟩ := config
  unfold parseCaptureConfig at ok
  obtain ⟨_, -, ok⟩ := ok_bind_iff.mp ok
  obtain ⟨mode, -, ok⟩ := ok_bind_iff.mp ok
  obtain ⟨sources, sourcesOk, ok⟩ := ok_bind_iff.mp ok
  obtain ⟨sample, sampleOk, ok⟩ := ok_bind_iff.mp ok
  obtain ⟨capacity, capacityOk, ok⟩ := ok_bind_iff.mp ok
  obtain ⟨duration, -, ok⟩ := ok_bind_iff.mp ok
  have sources_ := parseSources_bounds sourcesOk
  have sample_ := (readUnsigned_bounds sampleOk (.inr (by decide))).2
  have capacity_ := readUnsigned_bounds capacityOk (.inr (by decide))
  dsimp only at ok
  split at ok
  · exact (throw_ne_ok.mp ok).elim
  · obtain rfl := ok_pure_iff.mp ok
    exact ⟨sources_, sample_, capacity_, by simp⟩
  · exact (throw_ne_ok.mp ok).elim
  · obtain ⟨_, -, ok⟩ := ok_bind_iff.mp ok
    obtain ⟨ranges, -, ok⟩ := ok_bind_iff.mp ok
    obtain rfl := ok_pure_iff.mp ok
    exact ⟨sources_, sample_, capacity_, by simp⟩
  · obtain ⟨_, -, ok⟩ := ok_bind_iff.mp ok
    obtain ⟨manifest, manifestOk, ok⟩ := ok_bind_iff.mp ok
    obtain rfl := ok_pure_iff.mp ok
    refine ⟨sources_, sample_, capacity_, ?_⟩
    rintro m same
    obtain rfl := Option.some.inj same
    exact parseEventManifest_formed manifestOk

/-! ## The shown parts -/

/-- What a snapshot shows as it is. -/
structure Capture.Shown where
  used : Bool
  captureId : Text
  sessionId : Nat
  config : CaptureConfig
  reasons : List Text
  sample : List Json
  byKind : Dimension
  byGroupVariation : Dimension
  queue : List CaptureMeasurement

/-- What of a capture its snapshot shows. -/
def Capture.shown (s : Capture) : Capture.Shown where
  used := s.state ≠ .idle
  captureId := s.captureId
  sessionId := s.sessionId
  config := s.config
  reasons := s.invalidReasons
  sample := s.mismatchSample
  byKind := s.byKind
  byGroupVariation := s.byGroupVariation
  queue := s.queue

/-- A table of at most 256 names, none empty. -/
def NamedTable (table : Dimension) : Prop := table.length ≤ 256 ∧ ∀ e ∈ table, e.1 ≠ []

/-- What the client demands of a snapshot. -/
structure Capture.Shown.Ok (v : Capture.Shown) : Prop where
  reasons : v.reasons.Nodup ∧ ∀ reason ∈ v.reasons, reason ≠ []
  sample : v.sample.length ≤ v.config.mismatchSampleLimit ∧ v.sample.all Json.isObj = true
  kinds : NamedTable v.byKind
  groups : NamedTable v.byGroupVariation
  queue : ∀ m ∈ v.queue, m.kind ≠ []
  named : v.used = true → v.config.Bounded ∧ 0 < v.sessionId ∧
    ∃ session sequence, session < 2 ^ 64 ∧ sequence < 2 ^ 64 ∧
      v.captureId = text "cap-" ++ decimal session ++ text "-" ++ decimal sequence

/-- What the callers of the capture take care of. -/
def Action.Named : Action → Prop
  | .begin _ session _ => 0 < session ∧ session < 2 ^ 64
  | .recordObject _ m => m.kind ≠ []
  | .abort _ reason => reason ≠ []
  | _ => True

namespace Capture

variable {s : Capture}

/-- A named reason more is no fault. -/
theorem Shown.Ok.addReason {v : Shown} (ok : v.Ok) {reason : Text} (some_ : reason ≠ []) :
    Shown.Ok { v with reasons := addReason v.reasons reason } := by
  refine { ok with reasons := ?_ }
  unfold Capture.addReason
  split
  · exact ok.reasons
  · next fresh =>
    have fresh : reason ∉ v.reasons := by simpa using fresh
    refine ⟨List.Nodup.append ok.reasons.1 (by simp) (by simpa using fresh), ?_⟩
    intro other mem
    rcases List.mem_append.mp mem with old | new
    · exact ok.reasons.2 other old
    · rw [List.mem_singleton.mp new]
      exact some_

theorem ok_addInvalidReasonLocked (ok : s.shown.Ok) {reason : Text} (some_ : reason ≠ []) :
    (s.addInvalidReasonLocked reason).shown.Ok := by
  rw [addInvalidReasonLocked_eq]
  exact ok.addReason some_

/-- A counter the snapshot does not show leaves it readable. -/
theorem ok_incrementLocked (read : Capture → Nat) (write : Capture → Nat → Capture) (ok : s.shown.Ok)
    (frame : ∀ n, (write s n).shown = s.shown) : (s.incrementLocked read write).shown.Ok := by
  unfold incrementLocked
  split
  · exact ok_addInvalidReasonLocked ok (by decide)
  · rw [frame]
    exact ok

/-- A counted row keeps the table named. -/
theorem namedTable_bump {table : Dimension} (named : NamedTable table) (key : Text) : NamedTable (table.bump key) := by
  refine ⟨by simpa [Counts.bump] using named.1, ?_⟩
  intro e mem
  have names : e.1 ∈ (table.bump key).names := List.mem_map_of_mem mem
  rw [Counts.names_bump] at names
  obtain ⟨old, there, same⟩ := List.mem_map.mp names
  rw [← same]
  exact named.2 old there

/-- One more name in a table: the table stays one of names. -/
theorem ok_incrementDimensionLocked (read : Capture → Dimension) (write : Capture → Dimension → Capture) {key : Text}
    (ok : s.shown.Ok) (some_ : key ≠ []) (named : NamedTable (read s))
    (frame : ∀ table, NamedTable table → (write s table).shown.Ok) :
    (s.incrementDimensionLocked read write key).shown.Ok := by
  unfold incrementDimensionLocked
  split
  · split
    · exact ok_addInvalidReasonLocked ok (by decide)
    · exact frame _ (namedTable_bump named key)
  · split
    · exact ok_addInvalidReasonLocked ok (by decide)
    · next room =>
      refine frame _ ⟨by simp; omega, ?_⟩
      intro e mem
      rcases List.mem_append.mp mem with old | new
      · exact named.2 e old
      · rw [List.mem_singleton.mp new]
        exact some_

theorem groupVariation_ne_nil (m : CaptureMeasurement) : groupVariation m ≠ [] := by
  simp [groupVariation, text]

/-- Counting an object with a named kind keeps the tables named. -/
theorem ok_countMeasurement {m : CaptureMeasurement} (ok : s.shown.Ok) (kind : m.kind ≠ []) :
    (s.countMeasurement m).shown.Ok := by
  have received : (s.incrementLocked receivedTotal fun s n => { s with receivedTotal := n }).shown.Ok :=
    ok_incrementLocked _ _ ok fun _ => rfl
  unfold countMeasurement
  dsimp only
  generalize (s.incrementLocked receivedTotal fun s n => { s with receivedTotal := n }) = s at received
  have timed : ({ s with
      firstObjectMonotonicNs := some (s.firstObjectMonotonicNs.getD m.receivedMonotonicNs)
      lastObjectMonotonicNs := some m.receivedMonotonicNs } : Capture).shown.Ok := received
  have kinds := ok_incrementDimensionLocked byKind (fun s d => { s with byKind := d }) timed kind
    timed.kinds (fun table named => { timed with kinds := named })
  exact ok_incrementDimensionLocked byGroupVariation (fun s d => { s with byGroupVariation := d })
    kinds (groupVariation_ne_nil m) kinds.groups (fun table named => { kinds with groups := named })

/-- The sample stays within its limit. -/
theorem ok_recordUnmatchedLocked (m : CaptureMeasurement) (ok : s.shown.Ok) : (s.recordUnmatchedLocked m).shown.Ok := by
  have counted : (s.incrementLocked unmatchedTotal fun s n => { s with unmatchedTotal := n }).shown.Ok :=
    ok_incrementLocked _ _ ok fun _ => rfl
  unfold recordUnmatchedLocked
  dsimp only
  split
  · exact counted
  · next room =>
    refine { counted with sample := ⟨?_, ?_⟩ }
    · simp only [shown, List.length_append, List.length_singleton]
      omega
    · simp only [shown, List.all_append, Bool.and_eq_true]
      exact ⟨counted.sample.2, rfl⟩

/-- Holding a measurement against the static set keeps the snapshot readable. -/
theorem ok_processStatic (m : CaptureMeasurement) (ok : s.shown.Ok) : (s.processStatic m).shown.Ok := by
  unfold processStatic
  split
  · exact ok_recordUnmatchedLocked m ok
  · split
    · exact ok_recordUnmatchedLocked m ok
    · exact ok_incrementLocked _ _ ok fun _ => rfl
    · next ranges _ =>
      have moved : ({ s with ranges } : Capture).shown.Ok := ok
      exact ok_incrementLocked _ _ moved fun _ => rfl

/-- One step of the worker keeps the snapshot readable. -/
theorem ok_work {m : CaptureMeasurement} {rest : List CaptureMeasurement} (ok : s.shown.Ok)
    (queue : s.queue = m :: rest) : (s.work m rest).shown.Ok := by
  have kind : m.kind ≠ [] := ok.queue m (by simp [shown, queue])
  have popped : ({ s with queue := rest, processing := true } : Capture).shown.Ok :=
    { ok with queue := fun other mem => ok.queue other (by simp only [shown, queue]; exact List.mem_cons_of_mem _ mem) }
  have counted := ok_countMeasurement popped kind
  unfold work processLocked
  dsimp only
  generalize countMeasurement m { s with queue := rest, processing := true } = s at counted
  cases s.config.mode with
  | observation => exact counted
  | staticSet => exact ok_processStatic m counted
  | eventSequence =>
    cases s.sequenceDigest with
    | some lines => exact counted
    | none =>
      have failed : (s.addInvalidReasonLocked "CAPTURE_PROCESSING_FAILURE").shown.Ok :=
        ok_addInvalidReasonLocked counted (by decide)
      exact ok_incrementLocked queueOverflow (fun s n => { s with queueOverflow := n }) failed
        fun _ => rfl

/-- Closing an event sequence names its reasons. -/
theorem ok_finalizeEventSequenceLocked (platform : Platform) (ok : s.shown.Ok) :
    (s.finalizeEventSequenceLocked platform).shown.Ok := by
  unfold finalizeEventSequenceLocked
  split
  · exact ok
  · split
    · next lines manifest _ _ =>
      dsimp only
      split
      · exact ok
      · have reason : ∀ (sha : Option Text) (matched : Option Bool),
            (addInvalidReasonLocked { s with receivedSequenceSha256 := sha, sequenceDigest := none, sequenceMatch := matched }
              "EVENT_SEQUENCE_MISMATCH").shown.Ok := fun sha matched =>
          ok_addInvalidReasonLocked (by exact ok) (by decide)
        split
        · next room =>
          have ok := reason (some (platform.sha256 lines.flatten))
            (some (s.receivedTotal = manifest.eventTotal &&
              platform.sha256 lines.flatten = lowercaseAscii manifest.sha256))
          refine { ok with sample := ⟨?_, ?_⟩ }
          · simp only [shown, List.length_append, List.length_singleton]
            omega
          · simp only [shown, List.all_append, Bool.and_eq_true]
            exact ⟨ok.sample.2, rfl⟩
        · exact reason _ _
    · exact ok_addInvalidReasonLocked (by exact ok) (by decide)

/-- Closing a static set names its reason. -/
theorem ok_finalizeStaticSetLocked (ok : s.shown.Ok) : s.finalizeStaticSetLocked.shown.Ok := by
  unfold finalizeStaticSetLocked
  split
  · exact ok
  · split
    · exact ok_addInvalidReasonLocked ok (by decide)
    · exact ok

/-- A capture in use may move to another state in use. -/
theorem Shown.Ok.move {s' : Capture} (ok : s.shown.Ok) (used : s.state ≠ .idle)
    (same : s'.shown = { s.shown with used := s'.shown.used }) : s'.shown.Ok := by
  rw [same]
  refine { ok with named := fun _ => ok.named ?_ }
  simpa [shown] using used

theorem ok_expireLocked (now : Nat) (ok : s.shown.Ok) : (s.expireLocked now).shown.Ok := by
  unfold expireLocked
  split
  · next due =>
    refine ok_addInvalidReasonLocked ?_ (by decide)
    exact ok.move (by simp [due.1]) rfl
  · exact ok

/-- The queue is thrown away. -/
theorem ok_discard (ok : s.shown.Ok) (used : s.state ≠ .idle) (now : Nat) :
    ({ s with
      accepting := false, discardedOnAbort := s.discardedOnAbort + s.queue.length, queue := []
      state := .aborted, endedMonotonicNs := now } : Capture).shown.Ok := by
  have moved : ({ s with accepting := false, state := .aborted, endedMonotonicNs := now } : Capture).shown.Ok :=
    ok.move used rfl
  exact { moved with queue := by simp [shown] }

/-- A capture that never began has nothing to discard. -/
theorem ok_endReturn (platform : Platform) (now : Nat) (ok : s.shown.Ok) (empty : s.state = .idle → s.drained = true) :
    (s.endReturn platform now).1.shown.Ok := by
  have waited : (s.endWait platform now).shown.Ok := by
    unfold endWait
    split
    · next waiting =>
      refine ok_addInvalidReasonLocked (ok_discard ok ?_ now) (by decide)
      intro idle
      simp [empty idle] at waiting
    · split
      · next closing =>
        have finalized := ok_finalizeStaticSetLocked (ok_finalizeEventSequenceLocked platform ok)
        refine finalized.move ?_ rfl
        obtain ⟨_, _, _, _, _, eq, -⟩ := finalizeEventSequenceLocked_eq platform s
        obtain ⟨_, eq', -⟩ := finalizeStaticSetLocked_eq (s.finalizeEventSequenceLocked platform)
        rw [eq', eq]
        simp [closing]
      · split
        · exact ok
        · exact ok
  unfold endReturn
  dsimp only
  split
  · exact ok_finalizeEventSequenceLocked platform waited
  · exact waited

/-- An abort adds the reason it was given. -/
theorem ok_abort (platform : Platform) (now : Nat) {reason : Text} (some_ : reason ≠ []) (ok : s.shown.Ok) :
    (s.abort platform now reason).1.shown.Ok := by
  unfold abort
  dsimp only
  split
  · next running =>
    refine ok_finalizeEventSequenceLocked platform (ok_addInvalidReasonLocked (ok_discard ok ?_ now) some_)
    intro idle
    simp [abortable, idle] at running
  · exact ok

/-- An offered object. -/
theorem ok_recordObject (now : Nat) {m : CaptureMeasurement} (kind : m.kind ≠ []) (ok : s.shown.Ok) :
    (s.recordObject now m).shown.Ok := by
  have ok := ok_expireLocked now ok
  unfold recordObject
  dsimp only
  generalize s.expireLocked now = s at ok
  have offered : (s.incrementLocked offeredTotal fun s n => { s with offeredTotal := n }).shown.Ok :=
    ok_incrementLocked _ _ ok fun _ => rfl
  split
  · exact ok
  · split
    · have overflow := ok_incrementLocked queueOverflow (fun s n => { s with queueOverflow := n })
        offered fun _ => rfl
      exact ok_addInvalidReasonLocked overflow (by decide)
    · refine { offered with queue := ?_ }
      intro other mem
      rcases List.mem_append.mp mem with old | new
      · exact offered.queue other old
      · rw [List.mem_singleton.mp new]
        exact kind

/-- A capture that has just begun is readable. -/
theorem ok_begun {now session : Nat} (config : AcceptedConfig) (positive : 0 < session) (small : session < 2 ^ 64) :
    (s.begun now session config.val).shown.Ok where
  reasons := ⟨List.nodup_nil, by simp [shown, begun, resetLocked]⟩
  sample := ⟨Nat.zero_le _, rfl⟩
  kinds := ⟨Nat.zero_le _, by simp [shown, begun, resetLocked]⟩
  groups := ⟨Nat.zero_le _, by simp [shown, begun, resetLocked]⟩
  queue := by simp [shown, begun, resetLocked]
  named := fun _ => ⟨parseCaptureConfig_bounded config, positive, session, _, small, Nat.mod_lt _ (by decide), rfl⟩

theorem ok_recordFragment (now : Nat) (source : CaptureSource) (receivedAt : Nat) (ok : s.shown.Ok) :
    (s.recordFragment now source receivedAt).shown.Ok := by
  have ok := ok_expireLocked now ok
  unfold recordFragment
  dsimp only
  split
  · exact ok
  · exact ok_incrementLocked _ _ (by exact ok) fun _ => rfl

theorem ok_run (now : Nat) (ok : s.shown.Ok) : (s.run now).shown.Ok := by
  have ok := ok_expireLocked now ok
  unfold run
  dsimp only
  split
  · exact ok
  · next queue => exact ok_work ok queue

/-- The first section of `end`. -/
theorem ok_endEnter (platform : Platform) (now : Nat) (reference : CaptureReferenceConfig) (ok : s.shown.Ok) :
    (s.endEnter platform now reference).1.shown.Ok := by
  have ok := ok_expireLocked now ok
  unfold endEnter
  dsimp only
  generalize s.expireLocked now = s at ok
  split
  · exact ok
  · dsimp only
    split
    · next active => exact ok.move (by simp [active]) rfl
    · exact ok

end Capture

/-- Every action with named kinds and reasons keeps the snapshot readable. -/
theorem CaptureSystem.ok_step {y : CaptureSystem} (platform : Platform) (sound : y.capture.Sound platform)
    (ok : y.capture.shown.Ok) {a : Action} (named : a.Named) : (y.step platform a).capture.shown.Ok := by
  cases a with
  | begin now session config =>
    by_cases busy : (y.capture.expireLocked now).busy
    · simp only [step, Capture.begin, busy, if_true]
      exact Capture.ok_expireLocked now ok
    · simp only [step, Capture.begin, busy]
      exact Capture.ok_begun config named.1 named.2
  | recordFragment now source receivedAt => exact Capture.ok_recordFragment now source receivedAt ok
  | recordObject now m => exact Capture.ok_recordObject now named ok
  | run now => exact Capture.ok_run now ok
  | progress now reference =>
    simp only [step, Capture.progress]
    split <;> exact Capture.ok_expireLocked now ok
  | endEnter now reference => exact Capture.ok_endEnter platform now reference ok
  | endReturn now =>
    simp only [step]
    split
    · exact ok
    · refine Capture.ok_endReturn platform now ok fun idle => ?_
      simp [Capture.drained, sound.settled, sound.empty (.inl idle)]
  | abort now reason => exact Capture.ok_abort platform now named ok
  | status now => exact Capture.ok_expireLocked now ok

theorem CaptureSystem.runs_append (platform : Platform) (actions : List Action) (a : Action) :
    runs platform (actions ++ [a]) = (runs platform actions).step platform a := by
  simp [runs]

/-! ## Replies -/

namespace Capture

variable {s : Capture}

theorem used_expireLocked (now : Nat) (used : s.state ≠ .idle) : (s.expireLocked now).state ≠ .idle := by
  unfold expireLocked
  split
  · simp [addInvalidReasonLocked_eq]
  · exact used

theorem state_incrementLocked (read : Capture → Nat) (write : Capture → Nat → Capture)
    (frame : ∀ n, (write s n).state = s.state) : (s.incrementLocked read write).state = s.state := by
  rcases incrementLocked_cases read write s with ⟨-, eq⟩ | ⟨-, eq⟩
  · rw [eq]
  · rw [eq, frame]

theorem used_recordFragment (now : Nat) (source : CaptureSource) (receivedAt : Nat) (used : s.state ≠ .idle) :
    (s.recordFragment now source receivedAt).state ≠ .idle := by
  have used := used_expireLocked now used
  unfold recordFragment
  dsimp only
  split
  · exact used
  · rw [state_incrementLocked _ _ fun _ => rfl]
    exact used

/-- An object keeps a capture begun. -/
theorem used_recordObject (now : Nat) (m : CaptureMeasurement) (used : s.state ≠ .idle) :
    (s.recordObject now m).state ≠ .idle := by
  have used := used_expireLocked now used
  unfold recordObject
  dsimp only
  split
  · exact used
  · split
    · rw [addInvalidReasonLocked_eq]
      dsimp only
      rw [state_incrementLocked _ _ fun _ => rfl, state_incrementLocked _ _ fun _ => rfl]
      exact used
    · dsimp only
      rw [state_incrementLocked _ _ fun _ => rfl]
      exact used

/-- The worker leaves the state. -/
theorem state_work (m : CaptureMeasurement) (rest : List CaptureMeasurement) (ranges : RangesSound s) :
    (s.work m rest).state = s.state := by
  obtain ⟨_, _, _, _, _, _, counted, -⟩ := countMeasurement_frame { s with queue := rest, processing := true } m
  have marks : RangesSound (countMeasurement m { s with queue := rest, processing := true }) := by
    rw [counted]
    exact { ranges with }
  obtain ⟨_, _, _, _, _, _, marked, -⟩ := processStatic_frame m marks
  have state : (countMeasurement m { s with queue := rest, processing := true }).state = s.state := by rw [counted]
  unfold work processLocked
  dsimp only
  generalize countMeasurement m { s with queue := rest, processing := true } = s' at marked state
  cases s'.config.mode with
  | observation => exact state
  | staticSet =>
    dsimp only
    rw [marked]
    exact state
  | eventSequence =>
    cases s'.sequenceDigest with
    | some lines => exact state
    | none =>
      dsimp only
      rw [state_incrementLocked _ _ fun _ => rfl, addInvalidReasonLocked_eq]
      exact state

/-- A reference is only known once a capture was begun. -/
theorem used_of_reference {platform : Platform} {now : Nat} {requestedId : Text}
    (known : s.validateReferenceLocked platform now requestedId = none) : s.state ≠ .idle := by
  unfold validateReferenceLocked at known
  split at known
  · next named => exact named.1
  · cases known

theorem resultLocked_ok {platform : Platform} {now : Nat} {result : Json} (success : s.resultLocked platform now = .ok result) :
    result = s.snapshotLocked platform now := by
  unfold resultLocked at success
  split at success
  · cases success
  · exact (Except.ok.inj success).symm

/-- The first section of `end` keeps a capture begun. -/
theorem used_endEnter (platform : Platform) (now : Nat) (reference : CaptureReferenceConfig)
    (used : s.state ≠ .idle ∨ (s.endEnter platform now reference).2 = none) :
    (s.endEnter platform now reference).1.state ≠ .idle := by
  unfold endEnter at used ⊢
  dsimp only at used ⊢
  have before : s.state ≠ .idle → (s.expireLocked now).state ≠ .idle := used_expireLocked now
  generalize s.expireLocked now = s' at used before ⊢
  split
  · next refused =>
    rw [refused] at used
    exact before (used.resolve_right (by simp))
  · next accepted =>
    dsimp only
    split
    · simp
    · exact used_of_reference accepted

/-- The last section of `end` keeps a capture begun. -/
theorem used_endReturn (platform : Platform) (now : Nat) (used : s.state ≠ .idle) :
    (s.endReturn platform now).1.state ≠ .idle := by
  have waited : (s.endWait platform now).state ≠ .idle := by
    unfold endWait
    split
    · simp [addInvalidReasonLocked_eq]
    · split
      · simp
      · split <;> exact used
  unfold endReturn
  dsimp only
  split
  · obtain ⟨_, _, _, _, _, eq, -⟩ := finalizeEventSequenceLocked_eq platform (s.endWait platform now)
    rw [eq]
    exact waited
  · exact waited

theorem used_abort (platform : Platform) (now : Nat) (reason : Text) (used : s.state ≠ .idle) :
    (s.abort platform now reason).1.state ≠ .idle := by
  unfold abort
  dsimp only
  split
  · rw [addInvalidReasonLocked_eq]
    obtain ⟨_, _, _, _, _, eq, -⟩ := finalizeEventSequenceLocked_eq platform
      { s with
        accepting := false, discardedOnAbort := s.discardedOnAbort + s.queue.length, queue := [], state := .aborted
        endedMonotonicNs := now, invalidReasons := addReason s.invalidReasons reason }
    rw [eq]
    simp
  · exact used

end Capture

namespace CaptureSystem

/-- What a request replies, if this step lets it return. -/
def reply (platform : Platform) (y : CaptureSystem) : Action → Option BackendOperationResult
  | .begin now session config => some (y.capture.begin platform now session config.val).2
  | .progress now reference => some (y.capture.progress platform now reference).2
  | .endEnter now reference => (y.capture.endEnter platform now reference).2
  | .endReturn now => if y.draining = 0 then none else some (y.capture.endReturn platform now).2
  | _ => none

/-- A capture that was begun stays begun. -/
theorem used_step {y : CaptureSystem} {platform : Platform} (sound : y.capture.Sound platform)
    (used : y.capture.state ≠ .idle) (a : Action) : (y.step platform a).capture.state ≠ .idle := by
  cases a with
  | begin now session config =>
    by_cases busy : (y.capture.expireLocked now).busy
    · simp only [step, Capture.begin, busy, if_true]
      exact Capture.used_expireLocked now used
    · simp only [step, Capture.begin, busy]
      exact CaptureState.noConfusion
  | recordFragment now source receivedAt => exact Capture.used_recordFragment now source receivedAt used
  | recordObject now m => exact Capture.used_recordObject now m used
  | run now =>
    have used := Capture.used_expireLocked now used
    simp only [step, Capture.run]
    split
    · exact used
    · rw [Capture.state_work _ _ (sound.expire now).ranges]
      exact used
  | progress now reference =>
    simp only [step, Capture.progress]
    split <;> exact Capture.used_expireLocked now used
  | endEnter now reference => exact Capture.used_endEnter platform now reference (.inl used)
  | endReturn now =>
    simp only [step]
    split
    · exact used
    · exact Capture.used_endReturn platform now used
  | abort now reason => exact Capture.used_abort platform now reason used
  | status now => exact Capture.used_expireLocked now used

/-- An `end` waits for a capture in use. -/
theorem waiting_runs (platform : Platform) (actions : List Action) :
    (runs platform actions).draining ≠ 0 → (runs platform actions).capture.state ≠ .idle := by
  induction actions using List.reverseRecOn with
  | nil => simp [runs]
  | append_singleton actions a ih =>
    have sound := sound_runs platform actions
    rw [runs_append]
    generalize runs platform actions = y at ih sound
    intro waiting
    by_cases before : y.draining = 0
    · cases a with
      | endEnter now reference =>
        have fresh : (y.capture.endEnter platform now reference).2 = none := by
          by_contra replied
          simp only [step] at waiting
          rw [if_neg (by simpa using replied)] at waiting
          exact waiting before
        exact Capture.used_endEnter platform now reference (.inr fresh)
      | endReturn now => simp [step, before] at waiting
      | begin | recordFragment | recordObject | run | progress | abort | status => exact absurd before waiting
    · exact used_step sound (ih before) a

/-- A success carries the snapshot of the capture it leaves, which is in use. -/
theorem reply_ok {platform : Platform} {actions : List Action} {a : Action} {result : Json}
    (success : (runs platform actions).reply platform a = some (.ok result)) :
    ((runs platform actions).step platform a).capture.state ≠ .idle ∧
      ∃ now, result = ((runs platform actions).step platform a).capture.snapshotLocked platform now := by
  have waiting := waiting_runs platform actions
  generalize runs platform actions = y at success waiting
  cases a with
  | begin now session config =>
    simp only [reply, Option.some.injEq] at success
    by_cases busy : (y.capture.expireLocked now).busy
    · simp [Capture.begin, busy] at success
    · simp only [Capture.begin, busy] at success
      simp only [step, Capture.begin, busy]
      exact ⟨CaptureState.noConfusion, now, (Except.ok.inj success).symm⟩
  | progress now reference =>
    simp only [reply, Option.some.injEq, Capture.progress] at success
    simp only [step, Capture.progress]
    generalize y.capture.expireLocked now = s at success ⊢
    cases refused : s.validateReferenceLocked platform now reference.captureId with
    | some error => simp [refused] at success
    | none =>
      simp only [refused] at success
      refine ⟨Capture.used_of_reference refused, now, ?_⟩
      exact Capture.resultLocked_ok success
  | endEnter now reference =>
    simp only [reply, Capture.endEnter] at success
    split at success
    · simp at success
    · simp at success
  | endReturn now =>
    simp only [reply] at success
    split at success
    · cases success
    · next pending =>
      simp only [step, if_neg pending]
      exact ⟨Capture.used_endReturn platform now (waiting pending), now, Capture.resultLocked_ok (Option.some.inj success)⟩
  | recordFragment | recordObject | run | abort | status => cases success

end CaptureSystem

/-- **What a snapshot shows in every run** whose callers name sessions, reasons and kinds. -/
theorem CaptureSystem.ok_runs (platform : Platform) {actions : List Action} (named : ∀ a ∈ actions, a.Named) :
    (runs platform actions).capture.shown.Ok := by
  induction actions using List.reverseRecOn with
  | nil =>
    have fresh : ({} : Capture).shown.Ok :=
      ⟨by decide, by decide, ⟨by decide, by simp [Capture.shown]⟩, ⟨by decide, by simp [Capture.shown]⟩, by simp [Capture.shown],
        by simp [Capture.shown]⟩
    exact fresh
  | append_singleton actions a ih =>
    rw [runs_append]
    refine ok_step platform (sound_runs platform actions) (ih fun b mem => ?_) ?_
    · exact named b (by simp [mem])
    · exact named a (by simp)

end EmsDnp3.Native
