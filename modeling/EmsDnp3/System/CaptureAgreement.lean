import EmsDnp3.Native.CaptureSnapshot
import EmsDnp3.Python.CaptureResult

/-!
# The client accepts every capture snapshot

The host writes a snapshot from the fields of a capture; the client derives the laws between
them again. In every run the two agree: a snapshot that a success envelope carries is accepted,
and the parsed state, verdict and counters are the ones of the capture.
-/

namespace EmsDnp3

open Native (Capture CaptureState CaptureSystem Action Platform)
open Python (CaptureResult PyError field)
open Python.CaptureResult

/-- What the client may take for granted of the platform: a digest is 64 lower-case
hexadecimal digits, and the quotients are finite and not negative. -/
structure Native.Platform.Printable (platform : Platform) : Prop where
  sha256 : ∀ written, Python.isLowerSha256 (platform.sha256 written) = true
  duration : ∀ ns, (platform.durationMs ns).isFinite = true ∧ (platform.durationMs ns).isNegative = false
  throughput : ∀ n ns, (platform.throughputPerSec n ns).isFinite = true ∧ (platform.throughputPerSec n ns).isNegative = false

@[simp] theorem field_object_cons (k key : String) (v : Json) (members : List (String × Json)) :
    field (.object ((k, v) :: members)) key = if k = key then v else field (.object members) key := by
  simp only [field, Json.get?_object_cons]
  split <;> rfl

namespace CaptureAgreement

variable {platform : Platform} {now : Nat} {s : Capture}

/-- The state as the client names it; only a capture in use is reported. -/
def clientState : CaptureState → CaptureResult.State
  | .idle | .active | .finalizing => .active
  | .finalized => .finalized
  | .timedOut => .timedOut
  | .aborted => .aborted

def clientMode : Native.CaptureMode → Python.CaptureMode
  | .staticSet => .staticSet
  | .eventSequence => .eventSequence
  | .observation => .observation

def clientSource : Native.CaptureSource → Python.CaptureSource
  | .solicited => .solicited
  | .unsolicited => .unsolicited

/-- The verdict, `null` while the capture runs. -/
def clientValid (s : Capture) : Option Bool :=
  if s.state.terminal then some (s.state = .finalized && s.invalidReasons.isEmpty) else none

/-- A counter of a static set. -/
def clientStatic (s : Capture) (n : Nat) : Option Nat := if s.config.mode = .staticSet then some n else none

/-- How many objects the client expects. -/
def clientExpected (s : Capture) : Option Nat :=
  match s.config.mode with
  | .staticSet => some s.expectedTotal
  | .eventSequence => s.config.eventManifest.map (·.eventTotal)
  | .observation => none

def clientFormat (s : Capture) : Json := if s.config.mode = .eventSequence then canonicalFormat else .null

/-! ## The identity, the state and the mode -/

/-- A snapshot of a begun capture has every field the client asks for. -/
theorem missingFields_snapshot (used : s.state ≠ .idle) : missingFields (s.snapshotLocked platform now) = [] := by
  have present : ∀ key ∈ requiredFields, ((s.snapshotLocked platform now).get? (text key)).isNone = false := by
    intro key mem
    rw [Capture.snapshotLocked, if_neg used]
    apply Json.get?_object_isNone.mpr
    simp only [List.map_cons, List.map_nil]
    revert key
    decide
  rw [missingFields, List.filter_eq_nil_iff.mpr fun key mem => by simp [present key mem], List.mergeSort_nil]

/-- The capture ids the host gives out are tokens. -/
theorem isCaptureToken_name {session sequence : Nat} (session_ : session < 2 ^ 64) (sequence_ : sequence < 2 ^ 64) :
    isCaptureToken (text "cap-" ++ decimal session ++ text "-" ++ decimal sequence) = true := by
  have lengths : ∀ n < 2 ^ 64, (decimal n).length ≤ 20 := fun n small => length_decimal_le (by omega)
  have one := lengths session session_
  have two := lengths sequence sequence_
  have digit : ∀ n, (decimal n).all (fun c => isDigit c || (0x41 ≤ c.val && c.val ≤ 0x5A) ||
      (0x61 ≤ c.val && c.val ≤ 0x7A) || (text "._:-").contains c) = true := by
    intro n
    rw [List.all_eq_true]
    intro c mem
    simp [decimal_isDigit mem]
  have start : (text "cap-").length = 4 := by decide
  have dash : (text "-").length = 1 := by decide
  simp only [isCaptureToken, List.all_append, Bool.and_eq_true, digit, decide_eq_true_eq, List.length_append]
  refine ⟨⟨by simp [text], by omega⟩, ⟨⟨by decide, trivial⟩, by decide⟩, trivial⟩

/-- The client reads the capture id. -/
theorem captureIdOf_snapshot (used : s.state ≠ .idle) (ok : s.shown.Ok) :
    captureIdOf (s.snapshotLocked platform now) = .ok s.captureId := by
  obtain ⟨-, -, session, sequence, session_, sequence_, name⟩ := ok.named (by simpa [Capture.shown] using used)
  have token : isCaptureToken s.captureId = true := by
    rw [show s.captureId = _ from name]
    exact isCaptureToken_name session_ sequence_
  rw [Capture.snapshotLocked, if_neg used]
  simp [captureIdOf, token]

theorem sessionIdOf_snapshot (used : s.state ≠ .idle) (ok : s.shown.Ok) :
    sessionIdOf (s.snapshotLocked platform now) = .ok (s.sessionId : Int) := by
  have positive : 0 < s.sessionId := (ok.named (by simpa [Capture.shown] using used)).2.1
  rw [Capture.snapshotLocked, if_neg used]
  simp [sessionIdOf, Json.nat, positive]

theorem state_snapshot (used : s.state ≠ .idle) :
    nameIn (field (s.snapshotLocked platform now) "state") State.all State.name "capture result state is invalid" =
      .ok (clientState s.state) := by
  rw [Capture.snapshotLocked, if_neg used]
  cases state : s.state with
  | idle => exact absurd state used
  | active | finalizing | finalized | timedOut | aborted =>
    simp [CaptureState.name, nameIn, Python.inSet, State.all, State.name, clientState, rejectIf, pure, Except.pure]

theorem validity_snapshot (used : s.state ≠ .idle) :
    validity (s.snapshotLocked platform now) (clientState s.state) = .ok (clientValid s) := by
  rw [Capture.snapshotLocked, if_neg used]
  cases state : s.state with
  | idle => exact absurd state used
  | active | finalizing | finalized | timedOut | aborted =>
    simp [validity, clientState, clientValid, Capture.verdict, state, CaptureState.terminal]

theorem mode_snapshot (used : s.state ≠ .idle) :
    nameIn (field (s.snapshotLocked platform now) "mode") [.staticSet, .eventSequence, .observation]
      Python.CaptureMode.name "capture result mode is invalid" = .ok (clientMode s.config.mode) := by
  rw [Capture.snapshotLocked, if_neg used]
  cases s.config.mode <;>
    simp [Native.CaptureMode.name, nameIn, Python.inSet, Python.CaptureMode.name, clientMode, rejectIf, pure, Except.pure]

/-- The client reads the names of the sources, one by one. -/
theorem sourceItems_names (sources : List Native.CaptureSource) :
    sourceItems (sources.map fun source => .str source.name) = .ok (some (sources.map clientSource)) := by
  induction sources with
  | nil => rfl
  | cons source rest ih =>
    rw [List.map_cons, sourceItems, ih]
    cases source <;> simp [Python.inSet, Native.CaptureSource.name, clientSource, pure, Except.pure]

theorem clientSource_injective : Function.Injective clientSource := by
  intro a b same
  cases a <;> cases b <;> first | rfl | cases same

theorem sourcesOf_snapshot (used : s.state ≠ .idle) (ok : s.shown.Ok) :
    sourcesOf (s.snapshotLocked platform now) = .ok (s.config.sources.map clientSource) := by
  obtain ⟨⟨⟨nodup, some_, few⟩, -, -, -⟩, -⟩ := ok.named (by simpa [Capture.shown] using used)
  have nodup : (s.config.sources.map clientSource).Nodup := nodup.map clientSource_injective
  have some_ : 1 ≤ s.config.sources.length := some_
  have few : s.config.sources.length ≤ 2 := few
  rw [Capture.snapshotLocked, if_neg used]
  simp [sourcesOf, rejectIf, sourceItems_names, nodup, some_, few, pure, Except.pure]

/-! ## The counters -/

@[simp] theorem natural?_nat (n : Nat) : Python.natural? (.nat n) = some n := by
  simp [Python.natural?, Json.nat]

theorem nullableCount_ok {value : Json} {key : String} {n : Option Nat} (shown : field value key = .ofOption .nat n) :
    nullableCount value key = .ok n := by
  rw [nullableCount, shown]
  cases n with
  | none => rfl
  | some n => simp [Json.ofOption, Json.nat, Python.natural?]

theorem staticCounter_eq (n : Nat) : s.staticCounter n = .ofOption .nat (clientStatic s n) := by
  unfold Capture.staticCounter clientStatic
  split <;> rfl

/-- The expected total is shown as the client reads it. -/
theorem expectedTotalJson_eq : s.expectedTotalJson = .ofOption .nat (clientExpected s) := by
  unfold Capture.expectedTotalJson clientExpected
  cases s.config.mode with
  | staticSet | observation => rfl
  | eventSequence => cases s.config.eventManifest <;> rfl

/-- The counters satisfy the laws the client checks. -/
theorem queueLaws_snapshot (used : s.state ≠ .idle) (sound : s.Sound platform) (ok : s.shown.Ok) :
    queueLaws s.offeredTotal s.receivedTotal s.queue.length s.maxQueueDepth s.config.queueCapacity
      s.config.mismatchSampleLimit = .ok () := by
  obtain ⟨⟨-, sample, capacity, -⟩, -⟩ := ok.named (by simpa [Capture.shown] using used)
  have sample : ¬ 1024 < s.config.mismatchSampleLimit := Nat.not_lt.mpr sample
  have low : s.config.queueCapacity ≠ 0 := Nat.one_le_iff_ne_zero.mp capacity.1
  have high : ¬ 65536 < s.config.queueCapacity := Nat.not_lt.mpr capacity.2
  have received := sound.received
  have order : ¬ s.offeredTotal < s.receivedTotal := by omega
  simp [queueLaws, rejectIf, sample, low, high, sound.depth, sound.capacity, order]

/-! ## The numbers and the tables -/

theorem finite_ok {value : Json} {key : String} {x : FloatLit} (shown : field value key = .float x)
    (finite_ : x.isFinite = true ∧ x.isNegative = false) : finite value key = .ok (.float x) := by
  simp [finite, shown, finite_, rejectIf, pure, Except.pure]

/-- Named reasons are read as they stand. -/
theorem nonEmptyStrings_map {reasons : List Text} (some_ : ∀ reason ∈ reasons, reason ≠ []) :
    nonEmptyStrings (reasons.map .str) = some reasons := by
  induction reasons with
  | nil => rfl
  | cons reason rest ih =>
    rw [List.forall_mem_cons] at some_
    simp [nonEmptyStrings, some_.1, ih some_.2]

theorem reasons_snapshot (used : s.state ≠ .idle) (ok : s.shown.Ok) :
    reasons (s.snapshotLocked platform now) = .ok s.invalidReasons := by
  have nodup : s.invalidReasons.Nodup := ok.reasons.1
  have some_ : nonEmptyStrings (s.invalidReasons.map .str) = some s.invalidReasons := nonEmptyStrings_map ok.reasons.2
  rw [Capture.snapshotLocked, if_neg used]
  simp [reasons, some_, nodup]

theorem samples_snapshot (used : s.state ≠ .idle) (ok : s.shown.Ok) :
    samples (s.snapshotLocked platform now) s.config.mismatchSampleLimit = .ok s.mismatchSample := by
  have bounded : s.mismatchSample.length ≤ s.config.mismatchSampleLimit ∧ s.mismatchSample.all Json.isObj = true := ok.sample
  rw [Capture.snapshotLocked, if_neg used]
  simp only [samples, field_object_cons, String.reduceEq, reduceIte]
  rw [if_pos bounded]

theorem dimension_ok {value : Json} {key : String} {table : Native.Dimension}
    (shown : field value key = Capture.dimensionJson table) (named : Native.NamedTable table) :
    dimension value key = .ok () := by
  have counted : (table.map fun e => (e.1, Json.nat e.2)).all (fun m => m.1 ≠ [] && (Python.natural? m.2).isSome) = true := by
    rw [List.all_map, List.all_eq_true]
    intro e mem
    simp [named.2 e mem]
  rw [dimension, shown, Capture.dimensionJson]
  exact if_pos ⟨by simpa using named.1, counted⟩

/-! ## The truth of the capture -/

theorem digest_snapshot (used : s.state ≠ .idle) (sound : s.Sound platform) (printable : platform.Printable) :
    digest (s.snapshotLocked platform now) = .ok s.receivedSequenceSha256 := by
  rw [Capture.snapshotLocked, if_neg used]
  rcases sound.sequence with ⟨-, sha, -⟩ | ⟨-, sha, -⟩ | ⟨-, -, _, -, sha, ⟨written, rfl⟩, -⟩
  · simp [digest, sha, Json.ofOption]
  · simp [digest, sha, Json.ofOption]
  · simp [digest, sha, Json.ofOption, printable.sha256]

theorem sequenceMatchOf_snapshot (used : s.state ≠ .idle) :
    sequenceMatchOf (s.snapshotLocked platform now) = .ok s.sequenceMatch := by
  rw [Capture.snapshotLocked, if_neg used]
  cases s.sequenceMatch <;> simp [sequenceMatchOf, Json.ofOption]

theorem canonicalRecordFormatOf_snapshot (used : s.state ≠ .idle) :
    canonicalRecordFormatOf (s.snapshotLocked platform now) = .ok (clientFormat s) := by
  rw [Capture.snapshotLocked, if_neg used]
  cases mode : s.config.mode <;>
    simp [canonicalRecordFormatOf, mode, clientFormat, canonicalFormat, Python.inSet, rejectIf, pure, Except.pure]

/-- What the mode checks read off a snapshot. -/
def evidence (s : Capture) : Evidence where
  state := clientState s.state
  valid := clientValid s
  expectedTotal := clientExpected s
  receivedTotal := s.receivedTotal
  receivedUnique := clientStatic s s.receivedUnique
  duplicates := clientStatic s s.duplicates
  missing := clientStatic s s.missing
  digest := s.receivedSequenceSha256
  sequenceMatch := s.sequenceMatch
  format := clientFormat s

/-- A static set says no more than it may. -/
theorem staticTruth_snapshot (used : s.state ≠ .idle) (sound : s.Sound platform) (mode : s.config.mode = .staticSet) :
    staticTruth (s.snapshotLocked platform now) (evidence s) = .ok () := by
  have manifest : s.config.eventManifest = none := by
    by_contra truth
    have event := (sound.formed.resolve_left used).manifest.mpr (Option.isSome_iff_ne_none.mpr truth)
    simp [mode] at event
  have unique : s.receivedUnique ≤ s.expectedTotal := by
    have bits := Native.setBits_le sound.ranges.tight
    rw [sound.ranges.total] at bits
    exact sound.ranges.unique.trans bits
  have order : ¬ s.expectedTotal < s.receivedUnique := Nat.not_lt.mpr unique
  obtain ⟨sha, matched⟩ : s.receivedSequenceSha256 = none ∧ s.sequenceMatch = none := by
    rcases sound.sequence with ⟨-, sha, matched⟩ | ⟨event, -⟩ | ⟨event, -⟩
    · exact ⟨sha, matched⟩
    · simp [mode] at event
    · simp [mode] at event
  rw [Capture.snapshotLocked, if_neg used]
  simp [staticTruth, evidence, clientExpected, clientStatic, clientFormat, mode, Capture.completenessScope,
    Capture.unknownReason, Capture.missing, manifest, sha, matched, unique, order, rejectIf, Json.ofOption]

/-- An observation says no more than it may. -/
theorem observationTruth_snapshot (used : s.state ≠ .idle) (sound : s.Sound platform)
    (mode : s.config.mode = .observation) : observationTruth (s.snapshotLocked platform now) (evidence s) = .ok () := by
  have manifest : s.config.eventManifest = none := by
    by_contra truth
    have event := (sound.formed.resolve_left used).manifest.mpr (Option.isSome_iff_ne_none.mpr truth)
    simp [mode] at event
  obtain ⟨sha, matched⟩ : s.receivedSequenceSha256 = none ∧ s.sequenceMatch = none := by
    rcases sound.sequence with ⟨-, sha, matched⟩ | ⟨event, -⟩ | ⟨event, -⟩
    · exact ⟨sha, matched⟩
    · simp [mode] at event
    · simp [mode] at event
  rw [Capture.snapshotLocked, if_neg used]
  simp [observationTruth, noPointTruth, evidence, clientExpected, clientStatic, clientFormat, mode,
    Capture.completenessScope, Capture.unknownReason, manifest, sha, matched, rejectIf, Json.ofOption]

/-- A digest in lower case is one, and lower-casing it again changes nothing. -/
theorem isLowerSha256_fixed {value : Text} (lower_ : Python.isLowerSha256 value = true) :
    Python.isSha256 value = true ∧ Python.lower value = value ∧ Capture.lowercaseAscii value = value := by
  simp only [Python.isLowerSha256, Bool.and_eq_true, decide_eq_true_eq, List.all_eq_true, Bool.or_eq_true, isDigit] at lower_
  obtain ⟨length, digits⟩ := lower_
  refine ⟨?_, ?_, ?_⟩
  · simp only [Python.isSha256, Bool.and_eq_true, decide_eq_true_eq, List.all_eq_true, Bool.or_eq_true, isDigit]
    exact ⟨length, fun c mem => (digits c mem).imp .inl id⟩
  · refine (List.map_congr_left fun c mem => ?_).trans (List.map_id value)
    have := digits c mem
    exact if_neg (by omega)
  · refine (List.map_congr_left fun c mem => ?_).trans (List.map_id value)
    have := digits c mem
    exact if_neg (by omega)

/-- The digest of an accepted manifest is one for the client. -/
theorem isLowerSha256_manifest {m : Native.CaptureEventManifest} (formed : m.Formed) :
    Python.isLowerSha256 m.sha256 = true := by
  obtain ⟨written, hex, eq⟩ := formed.digest
  simp only [Native.isSha256, Bool.and_eq_true, decide_eq_true_eq, List.all_eq_true] at hex
  simp only [Python.isLowerSha256, eq, List.length_map, Bool.and_eq_true, decide_eq_true_eq, List.all_map, List.all_eq_true]
  refine ⟨hex.1, fun c mem => ?_⟩
  have digit := hex.2 c mem
  simp only [Native.isHexDigit, Bool.or_eq_true, Bool.and_eq_true, decide_eq_true_eq] at digit
  simp only [Function.comp_apply, Native.toLower]
  split
  · have small : (c.val + 0x20) % 0x110000 = c.val + 0x20 := by omega
    simp only [CodePoint.ofNat, small, isDigit, Bool.or_eq_true, Bool.and_eq_true, decide_eq_true_eq]
    omega
  · simp only [isDigit, Bool.or_eq_true, Bool.and_eq_true, decide_eq_true_eq]
    omega

/-- The client reads the manifest back. -/
theorem ofMapping_manifest {m : Native.CaptureEventManifest} (formed : m.Formed) :
    Python.CaptureEventManifest.ofMapping (Capture.eventManifestJson m) =
      .ok { eventTotal := m.eventTotal, sha256 := m.sha256 } := by
  have texts : ∀ value ∈ [m.generator, m.generatorVersion, m.scenarioId], ∀ name,
      Python.endpointText (.str value) name 128 = .ok value := by
    intro value mem name
    have token := formed.texts value mem
    simp only [Native.isPrintableAsciiToken, Bool.and_eq_true, decide_eq_true_eq] at token
    exact Python.endpointText_ok token.1.1 token.1.2 token.2
  simp only [List.mem_cons, List.not_mem_nil, or_false, forall_eq_or_imp, forall_eq] at texts
  obtain ⟨hex, lower_, -⟩ := isLowerSha256_fixed (isLowerSha256_manifest formed)
  have numbers : ∀ n ≤ 2 ^ 63 - 1, ∀ name, Python.unsignedInteger (.nat n) name 0 9223372036854775807 = .ok n :=
    fun n small name => Python.unsignedInteger_ok (Nat.zero_le n) small
  have total : ∀ name, Python.unsignedInteger (.nat m.eventTotal) name 1 1000000000 = .ok m.eventTotal :=
    fun name => Python.unsignedInteger_ok formed.total.1 formed.total.2
  have order : ¬ m.endSequence < m.startSequence := Nat.not_lt.mpr formed.range.1
  simp [Python.CaptureEventManifest.ofMapping, Capture.eventManifestJson, texts, numbers m.seed formed.numbers.1,
    numbers m.startSequence formed.numbers.2.1, numbers m.endSequence formed.numbers.2.2, total, order, formed.range.2, hex,
    lower_, formed.rule, Python.matchRule, rejectIf, pure, Except.pure]

/-- The manifest has exactly the fields the client asks for. -/
theorem manifest_fields (m : Native.CaptureEventManifest) :
    (manifestFields.all (fun key => ((Capture.eventManifestJson m).get? key).isSome)
      && (Capture.eventManifestJson m).keys.all (fun key => (manifestFields.map text).contains key)) = true := by
  have keys : (Capture.eventManifestJson m).keys = manifestFields.map text := by
    simp [Capture.eventManifestJson, Json.keys, Json.object, manifestFields]
  rw [keys]
  simp [manifestFields, Capture.eventManifestJson]

/-- The proof of an event sequence holds. -/
theorem sequenceProof_snapshot (used : s.state ≠ .idle) (sound : s.Sound platform) (ok : s.shown.Ok)
    (mode : s.config.mode = .eventSequence) {m : Native.CaptureEventManifest} (truth : s.config.eventManifest = some m) :
    sequenceProof (s.snapshotLocked platform now) (evidence s) { eventTotal := m.eventTotal, sha256 := m.sha256 } = .ok () := by
  have formed : m.Formed := (ok.named (by simpa [Capture.shown] using used)).1.manifest m truth
  obtain ⟨-, -, lower_⟩ := isLowerSha256_fixed (isLowerSha256_manifest formed)
  rw [Capture.snapshotLocked, if_neg used]
  rcases sound.sequence with ⟨other, -⟩ | ⟨-, sha, matched, unfinished, -⟩ |
    ⟨-, m', text, truth', sha, -, matched, reason, terminal, -⟩
  · exact absurd mode other
  · have running : clientState s.state ≠ .finalized := by
      cases state : s.state with
      | finalized => exact absurd state unfinished
      | idle | active | finalizing | timedOut | aborted => simp [clientState]
    simp [sequenceProof, evidence, sha, matched, mode, Capture.completenessScope, Capture.unknownReason, running, rejectIf]
  · obtain rfl : m' = m := Option.some.inj (truth'.symm.trans truth)
    rw [lower_] at matched
    cases flag : s.sequenceMatch with
    | none => simp [flag] at matched
    | some flag_ =>
      cases flag_ with
      | true =>
        rw [flag, Option.some.injEq, eq_comm, Bool.and_eq_true, decide_eq_true_eq, decide_eq_true_eq] at matched
        simp [sequenceProof, evidence, sha, flag, mode, Capture.completenessScope, Capture.unknownReason, matched, rejectIf]
      | false =>
        have invalid : clientValid s = some false := by
          have reasons : s.invalidReasons.isEmpty = false := by simpa using reason flag
          simp [clientValid, terminal, reasons]
        simp [sequenceProof, evidence, sha, flag, mode, Capture.completenessScope, Capture.unknownReason, invalid, rejectIf]

/-- An event sequence says no more than it may. -/
theorem eventTruth_snapshot (used : s.state ≠ .idle) (sound : s.Sound platform) (ok : s.shown.Ok)
    (mode : s.config.mode = .eventSequence) : eventTruth (s.snapshotLocked platform now) (evidence s) = .ok () := by
  obtain ⟨m, truth⟩ := Option.isSome_iff_exists.mp ((sound.formed.resolve_left used).manifest.mp mode)
  have formed : m.Formed := (ok.named (by simpa [Capture.shown] using used)).1.manifest m truth
  have proof_ : sequenceProof (s.snapshotLocked platform now) (evidence s)
      { eventTotal := m.eventTotal, sha256 := m.sha256 } = .ok () := sequenceProof_snapshot used sound ok mode truth
  have shown : field (s.snapshotLocked platform now) "event_manifest" = Capture.eventManifestJson m := by
    rw [Capture.snapshotLocked, if_neg used]
    simp [truth, Json.ofOption]
  have fields := manifest_fields m
  have parsed := ofMapping_manifest formed
  obtain ⟨members, eq⟩ : ∃ members, Capture.eventManifestJson m = .obj members := ⟨_, rfl⟩
  rw [eq] at shown fields parsed
  have none_ : ∀ n, clientStatic s n = none := fun n => by simp [clientStatic, mode]
  have expected : clientExpected s = some m.eventTotal := by simp [clientExpected, mode, truth]
  have format : clientFormat s = canonicalFormat := by simp [clientFormat, mode]
  unfold eventTruth
  simp only [shown, fields, parsed, ok_bind, noPointTruth, rejectIf]
  simp [evidence, none_, expected, format]
  exact proof_

/-- In every mode the claims of the snapshot are backed. -/
theorem modeTruth_snapshot (used : s.state ≠ .idle) (sound : s.Sound platform) (ok : s.shown.Ok) :
    modeTruth (s.snapshotLocked platform now) (clientMode s.config.mode) (evidence s) = .ok () := by
  cases mode : s.config.mode with
  | staticSet => exact staticTruth_snapshot used sound mode
  | eventSequence => exact eventTruth_snapshot used sound ok mode
  | observation => exact observationTruth_snapshot used sound mode

/-- A lost object is a reason, so a clean capture lost none. -/
theorem queueOverflow_clean (sound : s.Sound platform) (clean : s.invalidReasons = []) : s.queueOverflow = 0 := by
  by_contra lost
  exact sound.lost lost clean

/-- The verdict of a terminal capture is the one its truth gives. -/
theorem clientValid_eq (sound : s.Sound platform) (terminal : s.state.terminal = true) :
    clientValid s = some (decide (clientState s.state = .finalized) &&
      truthComplete (clientMode s.config.mode) (evidence s) s.unmatchedTotal && decide (s.invalidReasons = []) &&
      decide (s.queueOverflow = 0)) := by
  by_cases clean : s.invalidReasons = []
  · by_cases finalized : s.state = .finalized
    · have complete : truthComplete (clientMode s.config.mode) (evidence s) s.unmatchedTotal = true := by
        cases mode : s.config.mode with
        | observation => rfl
        | staticSet =>
          obtain ⟨missing, duplicates, unmatched⟩ := sound.static mode finalized clean
          simp [clientMode, truthComplete, evidence, clientStatic, mode, missing, duplicates, unmatched]
        | eventSequence =>
          rcases sound.sequence with ⟨other, -⟩ | ⟨-, -, -, unfinished, -⟩ | ⟨-, _, _, -, -, -, matched, reason, -⟩
          · exact absurd mode other
          · exact absurd finalized unfinished
          · cases flag : s.sequenceMatch with
            | none => simp [flag] at matched
            | some flag_ =>
              cases flag_ with
              | false => exact absurd clean (reason flag)
              | true => simp [clientMode, truthComplete, evidence, flag]
      simp only [clientValid, terminal, if_true]
      simp [finalized, clean, complete, clientState, queueOverflow_clean sound clean]
    · have other : clientState s.state ≠ .finalized := by
        cases state : s.state with
        | finalized => exact absurd state finalized
        | idle | active | finalizing | timedOut | aborted => simp [clientState]
      simp [clientValid, terminal, finalized, other]
  · simp [clientValid, terminal, clean]

/-- The result the client builds from a snapshot. -/
def parsed (platform : Platform) (now : Nat) (s : Capture) : CaptureResult where
  captureId := s.captureId
  sessionId := s.sessionId
  state := clientState s.state
  valid := clientValid s
  mode := clientMode s.config.mode
  sources := s.config.sources.map clientSource
  expectedTotal := clientExpected s
  offeredTotal := s.offeredTotal
  receivedTotal := s.receivedTotal
  receivedUnique := clientStatic s s.receivedUnique
  duplicates := clientStatic s s.duplicates
  missing := clientStatic s s.missing
  unmatchedTotal := s.unmatchedTotal
  fragmentsTotal := s.fragmentsTotal
  durationMs := .float (platform.durationMs (s.durationNs now))
  throughputPerSec := .float (platform.throughputPerSec s.receivedTotal (s.durationNs now))
  currentQueueDepth := s.queue.length
  maxQueueDepth := s.maxQueueDepth
  queueCapacity := s.config.queueCapacity
  queueOverflow := s.queueOverflow
  invalidReasons := s.invalidReasons
  completenessScope := .str s.completenessScope
  unknownReason := s.unknownReason
  receivedSequenceSha256 := s.receivedSequenceSha256
  sequenceMatch := s.sequenceMatch
  canonicalRecordFormat := clientFormat s
  mismatchSample := s.mismatchSample
  timings := s.timingsJson
  raw := s.snapshotLocked platform now

/-- The counters of a snapshot. -/
theorem count_snapshot (used : s.state ≠ .idle) :
    ∀ entry ∈ ([("offered_total", s.offeredTotal), ("received_total", s.receivedTotal),
      ("unmatched_total", s.unmatchedTotal), ("fragments_total", s.fragmentsTotal),
      ("current_queue_depth", s.queue.length), ("max_queue_depth", s.maxQueueDepth),
      ("queue_capacity", s.config.queueCapacity), ("queue_overflow", s.queueOverflow),
      ("discarded_on_abort", s.discardedOnAbort), ("mismatch_sample_limit", s.config.mismatchSampleLimit)] :
        List (String × Nat)), count (s.snapshotLocked platform now) entry.1 = .ok entry.2 := by
  rw [Capture.snapshotLocked, if_neg used]
  simp [count]

/-- The counters that may be absent. -/
theorem nullableCount_snapshot (used : s.state ≠ .idle) :
    ∀ entry ∈ ([("expected_total", clientExpected s), ("received_unique", clientStatic s s.receivedUnique),
      ("duplicates", clientStatic s s.duplicates), ("missing", clientStatic s s.missing)] : List (String × Option Nat)),
      nullableCount (s.snapshotLocked platform now) entry.1 = .ok entry.2 := by
  rw [Capture.snapshotLocked, if_neg used]
  simp only [List.mem_cons, List.not_mem_nil, or_false, forall_eq_or_imp, forall_eq]
  refine ⟨?_, ?_, ?_, ?_⟩
  all_goals
    apply nullableCount_ok
    simp [expectedTotalJson_eq, staticCounter_eq]

/-- **The client reads a sound capture back** from its snapshot. -/
theorem fromMapping_snapshot (used : s.state ≠ .idle) (sound : s.Sound platform) (ok : s.shown.Ok)
    (printable : platform.Printable) :
    fromMapping (s.snapshotLocked platform now) = .ok (parsed platform now s) := by
  have numbers : finite (s.snapshotLocked platform now) "duration_ms" = .ok (parsed platform now s).durationMs ∧
      finite (s.snapshotLocked platform now) "throughput_per_sec" = .ok (parsed platform now s).throughputPerSec := by
    rw [Capture.snapshotLocked, if_neg used]
    exact ⟨finite_ok (by simp) (printable.duration _), finite_ok (by simp) (printable.throughput _ _)⟩
  have tables : dimension (s.snapshotLocked platform now) "by_kind" = .ok () ∧
      dimension (s.snapshotLocked platform now) "by_group_variation" = .ok () := by
    rw [Capture.snapshotLocked, if_neg used]
    exact ⟨dimension_ok (by simp; rfl) ok.kinds, dimension_ok (by simp; rfl) ok.groups⟩
  have timings : timingsOf (s.snapshotLocked platform now) = .ok s.timingsJson := by
    obtain ⟨members, eq⟩ : ∃ members, s.timingsJson = .obj members := ⟨_, rfl⟩
    rw [Capture.snapshotLocked, if_neg used]
    simp [timingsOf, eq]
  have names : field (s.snapshotLocked platform now) "completeness_scope" = .str s.completenessScope ∧
      field (s.snapshotLocked platform now) "unknown_reason" = s.unknownReason := by
    rw [Capture.snapshotLocked, if_neg used]
    simp
  have counts := @count_snapshot platform now s used
  have nullable := @nullableCount_snapshot platform now s used
  simp only [List.mem_cons, List.not_mem_nil, or_false, forall_eq_or_imp, forall_eq] at counts nullable
  obtain ⟨offered, received, unmatched, fragments, depth, deepest, capacity, overflow, discarded, limit⟩ := counts
  obtain ⟨expected, unique, duplicates, missing⟩ := nullable
  have clean : clientValid s = some true → s.invalidReasons = [] ∧ s.queueOverflow = 0 := by
    intro valid
    have reasons : s.invalidReasons = [] := by
      by_contra some_
      simp [clientValid, some_] at valid
    exact ⟨reasons, queueOverflow_clean sound reasons⟩
  have agreed : clientState s.state ≠ .active → clientValid s = some (decide (clientState s.state = .finalized) &&
      truthComplete (clientMode s.config.mode) (evidence s) s.unmatchedTotal && decide (s.invalidReasons = []) &&
      decide (s.queueOverflow = 0)) := by
    intro ended
    apply clientValid_eq sound
    cases state : s.state <;> simp_all [clientState, CaptureState.terminal]
  have truth := @modeTruth_snapshot platform now s used sound ok
  unfold fromMapping
  simp only [missingFields_snapshot used, captureIdOf_snapshot used ok, sessionIdOf_snapshot used ok, state_snapshot used,
    validity_snapshot used, mode_snapshot used, sourcesOf_snapshot used ok, expected, unique, duplicates, missing, offered,
    received, unmatched, fragments, depth, deepest, capacity, overflow, discarded, limit, queueLaws_snapshot used sound ok,
    numbers, reasons_snapshot used ok, samples_snapshot used ok, timings, tables, digest_snapshot used sound printable,
    sequenceMatchOf_snapshot used, canonicalRecordFormatOf_snapshot used, ok_bind, names]
  refine ok_bind_iff.mpr ⟨(), rejectIf_ok.mpr (by simp), ?_⟩
  refine ok_bind_iff.mpr ⟨(), rejectIf_ok.mpr (by simpa using clean), ?_⟩
  refine ok_bind_iff.mpr ⟨(), truth, ?_⟩
  refine ok_bind_iff.mpr ⟨(), rejectIf_ok.mpr ?_, rfl⟩
  rw [Bool.and_eq_false_iff, decide_eq_false_iff_not, decide_eq_false_iff_not, not_not, not_not]
  by_cases running : clientState s.state = .active
  · exact .inr running
  · exact .inl (agreed running)

/-- The parsed result says of the state, the verdict and the counters what the capture does. -/
structure Agrees (r : CaptureResult) (s : Capture) : Prop where
  identity : r.captureId = s.captureId ∧ r.sessionId = s.sessionId
  state : r.state.name = s.state.name
  valid : Json.ofOption .bool r.valid = s.verdict
  expected : Json.ofOption .nat r.expectedTotal = s.expectedTotalJson
  static : Json.ofOption .nat r.receivedUnique = s.staticCounter s.receivedUnique ∧
    Json.ofOption .nat r.duplicates = s.staticCounter s.duplicates ∧
    Json.ofOption .nat r.missing = s.staticCounter s.missing
  objects : r.offeredTotal = s.offeredTotal ∧ r.receivedTotal = s.receivedTotal ∧ r.unmatchedTotal = s.unmatchedTotal ∧
    r.fragmentsTotal = s.fragmentsTotal
  queue : r.currentQueueDepth = s.queue.length ∧ r.maxQueueDepth = s.maxQueueDepth ∧
    r.queueCapacity = s.config.queueCapacity ∧ r.queueOverflow = s.queueOverflow
  reasons : r.invalidReasons = s.invalidReasons
  sequence : r.receivedSequenceSha256 = s.receivedSequenceSha256 ∧ r.sequenceMatch = s.sequenceMatch

/-- What the client parsed agrees with the capture. -/
theorem agrees_parsed (used : s.state ≠ .idle) : Agrees (parsed platform now s) s where
  identity := ⟨rfl, rfl⟩
  state := by
    cases state : s.state with
    | idle => exact absurd state used
    | active | finalizing | finalized | timedOut | aborted => simp [parsed, state, clientState, State.name, CaptureState.name]
  valid := by
    simp only [parsed, clientValid, Capture.verdict]
    split <;> rfl
  expected := expectedTotalJson_eq.symm
  static := ⟨(staticCounter_eq _).symm, (staticCounter_eq _).symm, (staticCounter_eq _).symm⟩
  objects := ⟨rfl, rfl, rfl, rfl⟩
  queue := ⟨rfl, rfl, rfl, rfl⟩
  reasons := rfl
  sequence := ⟨rfl, rfl⟩

/-- **The client accepts every capture result.** In every run, in any interleaving of requests,
callbacks, worker steps and expiry, the result of a successful `begin`, `progress` or `end` is
accepted, and the parsed state, verdict and counters are those of the capture. -/
theorem capture_accepted (platform : Platform) (printable : platform.Printable) (actions : List Action) (a : Action)
    (named : ∀ b ∈ actions ++ [a], b.Named) (result : Json)
    (success : (CaptureSystem.runs platform actions).reply platform a = some (.ok result)) :
    ∃ r, fromMapping result = .ok r ∧ Agrees r (CaptureSystem.runs platform (actions ++ [a])).capture := by
  have sound := CaptureSystem.sound_runs platform (actions ++ [a])
  have ok := CaptureSystem.ok_runs platform named
  obtain ⟨used, now, rfl⟩ := CaptureSystem.reply_ok success
  rw [CaptureSystem.runs_append] at sound ok ⊢
  exact ⟨_, fromMapping_snapshot used sound ok printable, agrees_parsed used⟩

/-- The end of the example run, as the client reads it. -/
theorem capture_accepted_example :
    Native.exampleEventPlatform.Printable ∧
    ∃ r, fromMapping ((CaptureSystem.runs Native.exampleEventPlatform Native.exampleEventRun).capture.snapshotLocked
        Native.exampleEventPlatform 15) = .ok r ∧
      Agrees r (CaptureSystem.runs Native.exampleEventPlatform Native.exampleEventRun).capture := by
  have digest : Python.isLowerSha256 (Native.exampleEventPlatform.sha256 []) = true := by decide +kernel
  have zero : (Native.exampleEventPlatform.durationMs 0).isFinite = true ∧
      (Native.exampleEventPlatform.durationMs 0).isNegative = false := by decide +kernel
  have printable : Native.exampleEventPlatform.Printable := ⟨fun _ => digest, fun _ => zero, fun _ _ => zero⟩
  have named : ∀ b ∈ Native.exampleEventRun.take 6 ++ [.endReturn 15], b.Named := by
    simp [Native.exampleEventRun, Action.Named, Native.exampleObject, text]
  refine ⟨printable, ?_⟩
  exact capture_accepted Native.exampleEventPlatform printable (Native.exampleEventRun.take 6) (.endReturn 15) named
    ((CaptureSystem.runs Native.exampleEventPlatform Native.exampleEventRun).capture.snapshotLocked
      Native.exampleEventPlatform 15) (by decide +kernel)

end CaptureAgreement

end EmsDnp3
