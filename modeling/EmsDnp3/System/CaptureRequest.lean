import EmsDnp3.System.RequestAgreement

/-!
# The host reads capture requests as the client wrote them

The two sides sort point ranges by the same key, so the ranges the client lets through are the
ones the host finds apart. With this every kind of request is covered (`requests_accepted`).
-/

namespace EmsDnp3

/-! ## The readers of `CaptureConfig.cpp` -/

theorem readMember_ok {object : Json} {key : String} {field : Text} {minimum maximum output n : Nat} {required : Bool}
    (here : object.get? key = some (.nat n)) (low : minimum ≤ n) (high : n ≤ maximum) (machine : n < 2 ^ 64) :
    Native.readUnsigned object key field minimum maximum output required = .ok n :=
  mapError_ok_iff.mp (Native.Request.readUnsigned_ok here low high machine)

/-- Members that are allowed pass. -/
theorem knownFields_ok {members : List (String × Json)} {allowed : List String} {parent : Text}
    (known : ∀ m ∈ members, m.1 ∈ allowed) : Native.rejectUnknownFields (.object members) allowed parent = .ok () := by
  have all : (members.map fun m => (text m.1, m.2)).find? (fun m => !(allowed.map text).contains m.1) = none := by
    simp only [List.find?_eq_none, List.mem_map]
    rintro _ ⟨m, inside, rfl⟩
    simpa using known m inside
  simp only [Json.object, Native.rejectUnknownFields, all]

/-- A token the client accepts is one for the host. -/
theorem readToken_ok {object : Json} {key : String} {field v : Text} {maximum : Nat}
    (here : object.get? key = some (.str v)) (ok : Python.IsEndpointText v maximum) :
    Native.readToken object key field maximum = .ok v := by
  have token : Native.isPrintableAsciiToken v maximum = true := by
    have printable : (v.all fun c => 0x21 ≤ c.val && c.val ≤ 0x7E) = true := ok.printable
    simp only [Native.isPrintableAsciiToken, printable, Bool.and_true, Bool.and_eq_true, decide_eq_true_eq]
    exact ⟨by simpa using ok.nonempty, ok.short⟩
  simp only [Native.readToken, here, token, if_true]

namespace Python

/-! ## Sources -/

def CaptureSource.native : CaptureSource → Native.CaptureSource
  | .solicited => .solicited
  | .unsolicited => .unsolicited

theorem CaptureSource.native_inj {a b : CaptureSource} : a.native = b.native ↔ a = b := by
  cases a <;> cases b <;> simp [native]

theorem CaptureSource.ofName_name (source : CaptureSource) :
    Native.CaptureSource.ofName source.name = some source.native := by
  cases source <;> simp [Native.CaptureSource.ofName, name, native]

/-- Distinct sources are accepted in order. -/
theorem parseSourceItems_ok {sources : List CaptureSource} (index : Nat) (seen : List Native.CaptureSource)
    (distinct : sources.Nodup) (fresh : ∀ source ∈ sources, source.native ∉ seen) :
    Native.parseSourceItems index seen (sources.map fun source => .str source.name) =
      .ok (seen ++ sources.map (·.native)) := by
  induction sources generalizing index seen with
  | nil => simp [Native.parseSourceItems]
  | cons source sources ih =>
    obtain ⟨first, distinct⟩ := List.nodup_cons.mp distinct
    have new : seen.contains source.native = false := by simpa using fresh source List.mem_cons_self
    have later : ∀ other ∈ sources, other.native ∉ seen ++ [source.native] := by
      intro other member old
      rcases List.mem_append.mp old with old | same
      · exact fresh other (List.mem_cons_of_mem source member) old
      · exact first (CaptureSource.native_inj.mp (List.mem_singleton.mp same) ▸ member)
    simp only [List.map_cons, Native.parseSourceItems, source.ofName_name, new, Bool.false_eq_true, if_false,
      ih _ _ distinct later, List.append_assoc, List.singleton_append]

/-! ## Point ranges -/

namespace CapturePointRange

theorem start_le (r : CapturePointRange) : r.start ≤ 65535 := r.ordered.trans r.bounded

/-- The range as the host keeps it. -/
def native (r : CapturePointRange) : Native.CapturePointRange where
  kind := r.kind
  start := Native.PointIndex.ofNat r.start
  stop := Native.PointIndex.ofNat r.stop
  ordered := by
    rw [Fin.le_def, Native.PointIndex.val_ofNat r.start_le, Native.PointIndex.val_ofNat r.bounded]
    exact r.ordered

@[simp] theorem native_start (r : CapturePointRange) : r.native.start.val = r.start := Native.PointIndex.val_ofNat r.start_le

@[simp] theorem native_stop (r : CapturePointRange) : r.native.stop.val = r.stop := Native.PointIndex.val_ofNat r.bounded

@[simp] theorem native_count (r : CapturePointRange) : r.native.count = r.pointCount := by
  rw [Native.CapturePointRange.count, native_start, native_stop, pointCount]

theorem kind_ok (r : CapturePointRange) : IsEndpointText r.kind 64 ∧ Native.isKnownKind r.kind = true := by
  have kinds : ∀ kind ∈ capturePointKinds.map text, kind ≠ [] ∧ kind.length ≤ 64 ∧ isPrintable kind = true := by
    decide
  obtain ⟨nonempty, short, printable⟩ := kinds r.kind r.known
  exact ⟨⟨nonempty, short, printable⟩, List.contains_iff_mem.mpr r.known⟩

theorem parsePointRange_ok (r : CapturePointRange) (index : Nat) :
    Native.parsePointRange index r.toParams = .ok r.native := by
  obtain ⟨kind, known⟩ := r.kind_ok
  unfold Native.parsePointRange
  dsimp only
  rw [toParams, knownFields_ok (by simp), ok_bind, readToken_ok (v := r.kind) (by simp) kind, ok_bind,
    rejectIf_pass (by simp [known]), ok_bind,
    readMember_ok (n := r.start) (by simp) (Nat.zero_le _) r.start_le (by have := r.start_le; omega), ok_bind,
    readMember_ok (n := r.stop) (by simp) (Nat.zero_le _) r.bounded (by have := r.bounded; omega), ok_bind,
    dif_pos (by exact r.native.ordered)]
  rfl

end CapturePointRange

/-- Several ranges are read back, as long as they are not too large together. -/
theorem parseRangeItems_ok {ranges : List CapturePointRange} (index total : Nat)
    (bounded : total + (ranges.map (·.pointCount)).sum ≤ 1000000) :
    Native.parseRangeItems index total (ranges.map (·.toParams)) = .ok (ranges.map (·.native)) := by
  induction ranges generalizing index total with
  | nil => rfl
  | cons r ranges ih =>
    rw [List.map_cons, List.sum_cons] at bounded
    have inside : decide (total > Native.kMaximumExpectedPoints - r.native.count) = false := by
      rw [decide_eq_false_iff_not, r.native_count, Native.kMaximumExpectedPoints]
      omega
    have rest : total + r.native.count + (ranges.map (·.pointCount)).sum ≤ 1000000 := by
      rw [r.native_count]
      omega
    rw [List.map_cons, Native.parseRangeItems, r.parsePointRange_ok, ok_bind, rejectIf_pass inside, ok_bind,
      ih _ _ rest, ok_bind]
    rfl

/-- Both sides sort by kind and start. -/
theorem rangeBefore_native (a b : CapturePointRange) :
    rangeKeyLe a b = true ↔ Native.rangeBefore b.native a.native = false := by
  have start : b.native.start < a.native.start ↔ b.start < a.start := by
    rw [Fin.lt_def, b.native_start, a.native_start]
  have kinds : a.native.kind = a.kind ∧ b.native.kind = b.kind := ⟨rfl, rfl⟩
  simp only [rangeKeyLe, Native.rangeBefore, start, kinds, Bool.or_eq_true, Bool.and_eq_true, decide_eq_true_eq,
    Bool.or_eq_false_iff, Bool.and_eq_false_iff, decide_eq_false_iff_not, not_lt]
  constructor
  · rintro (less | ⟨same, le⟩)
    · exact ⟨le_of_lt less, .inl (ne_of_gt less)⟩
    · exact ⟨le_of_eq same, .inr le⟩
  · rintro ⟨le, other | start⟩
    · exact .inl (lt_of_le_of_ne le (Ne.symm other))
    · exact (lt_or_eq_of_le le).imp_right fun same => ⟨same, start⟩

theorem sortRanges_native (ranges : List CapturePointRange) :
    Native.sortRanges (ranges.map (·.native)) =
      (ranges.insertionSort fun a b => rangeKeyLe a b = true).map (·.native) := by
  unfold Native.sortRanges
  exact (List.map_insertionSort _ _ _ ranges fun a _ b _ => rangeBefore_native a b).symm

/-- Ranges the client found disjoint are disjoint for the host. -/
theorem rejectOverlaps_ok {ranges : List CapturePointRange} (apart : noOverlap ranges = true) :
    Native.rejectOverlaps (ranges.map (·.native)) = .ok () := by
  induction ranges with
  | nil => rfl
  | cons previous ranges ih =>
    cases ranges with
    | nil => rfl
    | cons current rest =>
      rw [noOverlap, Bool.and_eq_true] at apart
      obtain ⟨first, apart⟩ := apart
      have below : ¬ (previous.native.kind = current.native.kind ∧ current.native.start ≤ previous.native.stop) := by
        rintro ⟨kind, touch⟩
        have kind : previous.kind = current.kind := kind
        rw [Fin.le_def, current.native_start, previous.native_stop] at touch
        simp [kind, touch] at first
      rw [List.map_cons, List.map_cons, Native.rejectOverlaps, if_neg below]
      exact ih apart

/-! ## Event manifests -/

namespace CaptureEventManifest

/-- The manifest as the host keeps it. -/
def native (m : CaptureEventManifest) : Native.CaptureEventManifest where
  generator := m.generator
  generatorVersion := m.generatorVersion
  scenarioId := m.scenarioId
  seed := m.seed
  startSequence := m.startSequence
  endSequence := m.endSequence
  eventTotal := m.eventTotal
  sha256 := m.sha256
  matchRule := matchRule

/-- A digest in lower case is accepted as it is. -/
theorem digest_ok {value : Text} (digest : isLowerSha256 value = true) :
    IsEndpointText value 64 ∧ Native.isSha256 value = true ∧ value.map Native.toLower = value := by
  simp only [isLowerSha256, Bool.and_eq_true, decide_eq_true_eq, List.all_eq_true, Bool.or_eq_true, isDigit] at digest
  obtain ⟨length, digits⟩ := digest
  refine ⟨⟨?_, le_of_eq length, List.all_eq_true.mpr fun c member => ?_⟩, ?_, ?_⟩
  · rintro rfl
    simp at length
  · have := digits c member
    simp only [Bool.and_eq_true, decide_eq_true_eq]
    omega
  · simp only [Native.isSha256, Native.isHexDigit, Bool.and_eq_true, decide_eq_true_eq, List.all_eq_true, Bool.or_eq_true]
    exact ⟨length, fun c member => (digits c member).imp .inl id⟩
  · refine (List.map_congr_left fun c member => ?_).trans (List.map_id value)
    have := digits c member
    exact if_neg (by omega)

theorem text_ok (m : CaptureEventManifest) {value : Text} (member : value ∈ [m.generator, m.generatorVersion, m.scenarioId]) :
    IsEndpointText value 128 := by
  obtain ⟨nonempty, short, printable⟩ := m.texts value member
  exact ⟨nonempty, short, printable⟩

theorem parseEventManifest_ok (m : CaptureEventManifest) :
    Native.parseEventManifest (.object [("manifest", m.toParams)]) = .ok m.native := by
  obtain ⟨digest, sha, lowered⟩ := digest_ok m.digest
  obtain ⟨totalLow, totalHigh⟩ := m.total
  have seed : m.seed ≤ 2 ^ 63 - 1 := m.numbers _ (by simp)
  have start : m.startSequence ≤ 2 ^ 63 - 1 := m.numbers _ (by simp)
  have stop : m.endSequence ≤ 2 ^ 63 - 1 := m.numbers _ (by simp)
  have consistent : (decide (m.startSequence > m.endSequence) ||
      decide (m.endSequence - m.startSequence + 1 ≠ m.eventTotal)) = false := by
    simp [m.range.1, m.range.2]
  have rule : IsEndpointText matchRule 64 := ⟨by decide, by decide, by decide⟩
  have here : (Json.object [("manifest", m.toParams)]).get? "manifest" = some m.toParams := by simp
  have known : Native.rejectUnknownFields m.toParams Native.manifestFields "expected.manifest" = .ok () :=
    knownFields_ok (by simp [Native.manifestFields])
  unfold Native.parseEventManifest
  rw [knownFields_ok (by simp), ok_bind, here]
  dsimp only
  rw [known, ok_bind, readToken_ok (v := m.generator) (by simp [toParams]) (m.text_ok (by simp)), ok_bind,
    readToken_ok (v := m.generatorVersion) (by simp [toParams]) (m.text_ok (by simp)), ok_bind,
    readToken_ok (v := m.scenarioId) (by simp [toParams]) (m.text_ok (by simp)), ok_bind,
    readMember_ok (n := m.seed) (by simp [toParams]) (Nat.zero_le _) seed (by omega), ok_bind,
    readMember_ok (n := m.startSequence) (by simp [toParams]) (Nat.zero_le _) start (by omega), ok_bind,
    readMember_ok (n := m.endSequence) (by simp [toParams]) (Nat.zero_le _) stop (by omega), ok_bind,
    readMember_ok (n := m.eventTotal) (by simp [toParams]) totalLow totalHigh (by omega), ok_bind,
    rejectIf_pass consistent, ok_bind, readToken_ok (v := m.sha256) (by simp [toParams]) digest, ok_bind,
    rejectIf_pass (by simp [sha]), ok_bind, readToken_ok (v := matchRule) (by simp [toParams]) rule, ok_bind,
    rejectIf_pass (by simp [matchRule]), ok_bind, lowered]
  rfl

end CaptureEventManifest

/-! ## The whole request -/

def CaptureMode.native : CaptureMode → Native.CaptureMode
  | .staticSet => .staticSet
  | .eventSequence => .eventSequence
  | .observation => .observation

namespace CaptureConfig

variable (c : CaptureConfig)

/-- The capture that the host is asked for, with its ranges in the order of the host. -/
def native : Native.CaptureConfig where
  mode := c.mode.native
  sources := c.sources.map (·.native)
  pointRanges := Native.sortRanges (c.pointRanges.map (·.native))
  eventManifest := c.eventManifest.map (·.native)
  mismatchSampleLimit := c.mismatchSampleLimit
  queueCapacity := c.queueCapacity
  durationLimitMs := c.durationLimitMs

theorem parseMode_ok : Native.parseMode c.toParams = .ok c.mode.native := by
  cases named : c.mode <;> simp [Native.parseMode, toParams, named, CaptureMode.name, CaptureMode.native]

/-- The sources are read back. -/
theorem parseSources_ok : Native.parseSources c.toParams = .ok (c.sources.map (·.native)) := by
  obtain ⟨⟨nonempty, short⟩, distinct⟩ := c.sourcesOk
  have items : Native.readArray c.toParams "sources" "sources" = .ok (c.sources.map fun source => .str source.name) := by
    simp [Native.readArray, toParams]
  have size : (decide (c.sources.map (fun source => Json.str source.name) = []) ||
      decide (Native.kMaximumSources < (c.sources.map fun source => Json.str source.name).length)) = false := by
    have some_ : c.sources ≠ [] := List.length_pos_iff.mp nonempty
    simpa [some_, Native.kMaximumSources] using short
  unfold Native.parseSources
  rw [items, ok_bind, rejectIf_pass size, ok_bind, parseSourceItems_ok 0 [] distinct (by simp)]
  rfl

/-- The ranges are read back, in the host's order. -/
theorem parsePointRanges_ok (static : c.mode = .staticSet) :
    Native.parsePointRanges (.object [("point_ranges", .arr (c.pointRanges.map (·.toParams)))]) =
      .ok (Native.sortRanges (c.pointRanges.map (·.native))) := by
  obtain ⟨nonempty, -, points, apart⟩ := c.static static
  have items : Native.readArray (.object [("point_ranges", .arr (c.pointRanges.map (·.toParams)))]) "point_ranges"
      "expected.point_ranges" = .ok (c.pointRanges.map (·.toParams)) := by
    simp [Native.readArray]
  have size : (decide (c.pointRanges.map (·.toParams) = []) ||
      decide (Native.kMaximumRanges < (c.pointRanges.map (·.toParams)).length)) = false := by
    simpa [nonempty, Native.kMaximumRanges] using c.rangeCount
  unfold Native.parsePointRanges
  rw [knownFields_ok (by simp), ok_bind, items, ok_bind, rejectIf_pass size, ok_bind,
    parseRangeItems_ok 0 0 (by omega), ok_bind, sortRanges_native, rejectOverlaps_ok apart, ok_bind]
  rfl

/-- A capture the client can request is accepted. -/
theorem parseCaptureConfig_ok : Native.parseCaptureConfig c.toParams = .ok c.native := by
  obtain ⟨durationLow, durationHigh⟩ := c.duration
  obtain ⟨capacityLow, capacityHigh⟩ := c.capacity
  have sample : c.mismatchSampleLimit ≤ Native.kMaximumMismatchSamples := c.sample
  have capacity : c.queueCapacity ≤ Native.kMaximumQueueCapacity := capacityHigh
  have duration : c.durationLimitMs ≤ Native.kMaximumDurationMs := durationHigh
  have known : Native.rejectUnknownFields c.toParams Native.captureFields [] = .ok () := by
    apply knownFields_ok
    cases mode : c.mode <;> cases manifest : c.eventManifest <;> simp [Native.captureFields]
  unfold Native.parseCaptureConfig
  dsimp only
  rw [known, ok_bind, c.parseMode_ok, ok_bind, c.parseSources_ok, ok_bind,
    readMember_ok (n := c.mismatchSampleLimit) (by simp [toParams]) (Nat.zero_le _) sample (by have := c.sample; omega),
    ok_bind,
    readMember_ok (n := c.queueCapacity) (by simp [toParams]) capacityLow capacity (by omega), ok_bind,
    readMember_ok (n := c.durationLimitMs) (by simp [toParams]) durationLow duration (by omega), ok_bind]
  cases mode : c.mode with
  | staticSet =>
    obtain ⟨-, manifest, -⟩ := c.static mode
    have expected : c.toParams.get? "expected" =
        some (.object [("point_ranges", .arr (c.pointRanges.map (·.toParams)))]) := by simp [toParams, mode]
    rw [expected]
    dsimp only [CaptureMode.native]
    rw [rejectIf_pass (by rfl), ok_bind, c.parsePointRanges_ok mode, ok_bind]
    simp only [native, mode, manifest, Option.map_none]
    rfl
  | eventSequence =>
    obtain ⟨ranges, given⟩ := c.event mode
    obtain ⟨manifest, given⟩ := Option.isSome_iff_exists.mp given
    have expected : c.toParams.get? "expected" = some (.object [("manifest", manifest.toParams)]) := by
      simp [toParams, mode, given]
    rw [expected]
    dsimp only [CaptureMode.native]
    rw [rejectIf_pass (by rfl), ok_bind, manifest.parseEventManifest_ok, ok_bind]
    simp only [native, mode, ranges, given, Option.map_some]
    rfl
  | observation =>
    obtain ⟨ranges, given⟩ := c.observation mode
    have expected : c.toParams.get? "expected" = none := by simp [toParams, mode]
    rw [expected]
    dsimp only [CaptureMode.native]
    simp only [native, mode, ranges, given, Option.map_none]
    rfl

end CaptureConfig

end Python

/-- **Python requests are accepted by the host unchanged.** Each parser yields on the parameters of the
client the structure that carries the same values; the ranges of a capture are sorted on the way. -/
theorem requests_accepted :
    (∀ c : Python.CaptureConfig, Native.parseCaptureConfig c.toParams = .ok c.native ∧
      c.native.pointRanges.Perm (c.pointRanges.map (·.native))) ∧
    (∀ r : Python.ReadRequest, Native.parseReadConfig r.params = .ok r.native) ∧
    (∀ r : Python.CommandRequest, Native.parseCommandConfig r.params = .ok r.native) ∧
    ∀ c : Python.TcpConnectionConfig, Native.parseConnectionConfig c.toParams = .ok c.native :=
  ⟨fun c => ⟨c.parseCaptureConfig_ok, List.perm_insertionSort _ _⟩, fun r => r.parseReadConfig_ok,
    fun r => r.parseCommandConfig_ok, fun c => c.parseConnectionConfig_ok⟩

/-- A LAB connection with the highest addresses and the shortest timeouts. -/
example : ∃ c : Python.TcpConnectionConfig, (c.native.masterAddress, c.native.outstationAddress, c.native.dutId) =
    (65518, 65519, text "dut-1") :=
  ⟨{ host := "10.0.0.7", port := 65535, masterAddress := 65518, outstationAddress := 65519, connectTimeoutMs := 50
     retryMinMs := 10, retryMaxMs := 10
     safety := some { operatorId := "op-1", dutId := "dut-1", allowStateChange := true
                      operator := ⟨by decide, by decide, by decide⟩, dut := ⟨by decide, by decide, by decide⟩ }
     hostOk := ⟨by decide, by decide, by decide⟩, adapterOk := ⟨by decide, by decide, by decide⟩
     portOk := by decide, masterOk := by decide, outstationOk := by decide, addressesDiffer := by decide
     exclusive := by simp, connectTimeoutOk := by decide, retryMinOk := by decide, retryMaxOk := by decide
     retryOk := by decide, keepAliveOk := by decide }, rfl⟩

/-- A class, a range up to the last index and a count are the headers of one read. -/
example : ∃ r : Python.ReadRequest, r.native.headers.map (·.variation) = [2, 1, 3] :=
  ⟨{ options := { timeoutMs := 300000, maxMeasurements := 1, returnMode := .summary, timeoutOk := by decide
                  maximumOk := by decide }
     headers :=
       [{ group := 60, variation := 2, groupOk := by decide, variationOk := by decide, all := by decide
          range := by simp [Python.ReadQualifier.rangeMaximum], counted := by simp [Python.ReadQualifier.countMaximum]
          classData := by decide },
        { group := 1, variation := 1, qualifier := .range16, start := some 0, stop := some 65535, groupOk := by decide
          variationOk := by decide, all := by decide, range := by simp [Python.ReadQualifier.rangeMaximum]
          counted := by simp [Python.ReadQualifier.countMaximum], classData := by decide },
        { group := 2, variation := 3, qualifier := .count8, count := some 255, groupOk := by decide
          variationOk := by decide, all := by decide, range := by simp [Python.ReadQualifier.rangeMaximum]
          counted := by simp [Python.ReadQualifier.countMaximum], classData := by decide }]
     headersOk := by decide }, rfl⟩

/-- An analog output of both integer bounds is a batch of the client. -/
example : ∃ r : Python.CommandRequest, r.native.commands.map (·.integerValue) = [-32768, 2147483647] :=
  ⟨{ safetyToken := List.replicate 32 (CodePoint.ofChar 'a'), timeoutMs := 50, responseMode := .response,
     commands := [.analog { index := 0, value := .int (-32768), commandType := .int16, indexOk := by decide,
                            valueOk := ⟨_, rfl, by decide, by decide⟩ },
                  .analog { index := 65535, value := .int 2147483647, commandType := .int32, indexOk := by decide,
                            valueOk := ⟨_, rfl, by decide, by decide⟩ }],
     tokenOk := by decide, timeoutOk := by decide, commandsOk := by decide, distinct := by decide }, rfl⟩

end EmsDnp3
