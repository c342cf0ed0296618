import EmsDnp3.Native.LocalOutstation
import EmsDnp3.Python.LocalBenchmark

/-!
# The planned stream is the emitted stream

The client computes the expected stream of a generator request on unbounded integers, and the outstation
emits it on 64-bit words. An accepted plan leaves no word to wrap around, so both walk the same records.
A load is only run on an outstation that has its points, and then each of its iterations is such a plan.
-/

namespace EmsDnp3

open Native.LocalOutstation (Generator IterationOrder Options Update generatorFields unsignedValue)
open Python (GeneratedEventTruth GeneratedRecord GeneratedType)

namespace Python.GeneratedType

/-- Whether the generated points are analog. -/
def isAnalog : GeneratedType → Bool
  | .binaryInput => false
  | .analogInput => true

end Python.GeneratedType

namespace Python.GeneratedEventTruth

variable (truth : GeneratedEventTruth)

/-- The parameters as the outstation holds them. -/
def native : Generator where
  analog := truth.pointType.isAnalog
  count := .ofNat truth.eventTotal
  seed := .ofNat truth.seed
  startSequence := .ofNat truth.startSequence
  timestampBase := .ofNat truth.timestampBaseMs
  pointSpan := .ofNat truth.pointSpan
  intervalUs := .ofNat truth.intervalUs

end Python.GeneratedEventTruth

namespace GeneratorAgreement

/-- What the master sees of an event: an analog value travels as a single-precision number. -/
def onWire (update : Update) : GeneratedRecord :=
  match update.measurement with
  | .binary value => ⟨.binaryInput, update.index.toNat, .bool value⟩
  | .analog value => ⟨.analogInput, update.index.toNat, .float (binary32 value)⟩

theorem toNat_ofNat {n : Nat} (word : n < 2 ^ 64) : (UInt64.ofNat n).toNat = n := UInt64.toNat_ofNat_of_lt' word

theorem unsignedValue_nat {n maximum : Nat} (word : maximum < 2 ^ 64) (low : n ≤ maximum) :
    unsignedValue (.nat n) maximum = some (.ofNat n) := by
  rw [unsignedValue, Native.integer?_nat (by omega)]
  simp [low]

/-- A number within its bound is read where it is a parameter. -/
theorem bind_unsignedValue {value : Option Json} {n maximum : Nat} (here : value = some (.nat n))
    (word : maximum < 2 ^ 64) (low : n ≤ maximum) :
    (value.bind fun value => unsignedValue value maximum) = some (.ofNat n) := by
  rw [here, Option.bind_some]
  exact unsignedValue_nat word low

/-- Sums of words that fit are sums. -/
theorem toNat_add {a b : UInt64} (fits : a.toNat + b.toNat < 2 ^ 64) : (a + b).toNat = a.toNat + b.toNat := by
  rw [UInt64.toNat_add, Nat.mod_eq_of_lt fits]

section
variable {truth : GeneratedEventTruth} {pointCount : Nat}

/-- The words of an accepted plan are its numbers. -/
theorem native_toNat (limits : truth.Accepted pointCount) (database : pointCount ≤ 65535) :
    truth.native.count.toNat = truth.eventTotal ∧ truth.native.seed.toNat = truth.seed ∧
      truth.native.startSequence.toNat = truth.startSequence ∧
      truth.native.timestampBase.toNat = truth.timestampBaseMs ∧ truth.native.pointSpan.toNat = truth.pointSpan ∧
      truth.native.intervalUs.toNat = truth.intervalUs := by
  obtain ⟨count, seed, sequence, span, timestamp, duration⟩ := limits
  have interval : truth.intervalUs ≤ Python.maxGeneratedDurationUs :=
    (Nat.le_mul_of_pos_left _ count.1).trans duration
  unfold Python.maxGeneratedEvents at count
  unfold Python.maxGeneratedDurationUs at interval
  refine ⟨toNat_ofNat ?_, toNat_ofNat ?_, toNat_ofNat ?_, toNat_ofNat ?_, toNat_ofNat ?_, toNat_ofNat ?_⟩ <;> omega

/-- The client sends the fields the generator asks for. -/
theorem requireFields_ok {request : Native.Request} (sent : request.params = truth.params)
    (set : IterationOrder generatorFields) : Native.LocalOutstation.requireFields set request = .ok () := by
  have present : (set.order.find? fun field => (truth.params.get? (text field)).isNone) = none := by
    rw [List.find?_eq_none]
    intro field mem
    have known := set.same.mem_iff.mp mem
    simp only [generatorFields, List.mem_cons, List.not_mem_nil, or_false] at known
    obtain rfl | rfl | rfl | rfl | rfl | rfl | rfl := known <;> simp [GeneratedEventTruth.params]
  have known : (truth.params.keys.find? fun key => !(generatorFields.map text).contains key) = none := by
    rw [List.find?_eq_none]
    intro key mem
    have fields : truth.params.keys = generatorFields.map text := by
      simp [GeneratedEventTruth.params, Json.object, Json.keys, generatorFields]
    rw [fields] at mem
    simp [mem]
  rw [Native.LocalOutstation.requireFields, sent, present]
  simp only
  rw [known]

theorem readType_ok {request : Native.Request} (sent : request.params = truth.params) :
    Generator.readType request = .ok truth.pointType.isAnalog := by
  have here : truth.params.get? (text "type") = some (.str truth.pointType.name) := by
    simp [GeneratedEventTruth.params]
  rw [Generator.readType, sent, here]
  cases truth.pointType <;> simp [GeneratedType.name, GeneratedType.isAnalog]

/-- The numbers are read back. -/
theorem readNumbers_ok (limits : truth.Accepted pointCount) (options : Options)
    (same : options.pointCount = pointCount) :
    Generator.readNumbers options truth.params truth.pointType.isAnalog = some truth.native := by
  obtain ⟨count, seed, sequence, span, timestamp, duration⟩ := limits
  have database := options.pointCountOk.2
  have interval : truth.intervalUs ≤ Native.LocalOutstation.kMaximumGeneratedDurationUs :=
    (Nat.le_mul_of_pos_left _ count.1).trans duration
  have total : truth.eventTotal ≤ Native.LocalOutstation.kMaximumGeneratedEvents := count.2
  have time : truth.timestampBaseMs ≤ Native.LocalOutstation.kMaximumDnp3Timestamp := by
    unfold Native.LocalOutstation.kMaximumDnp3Timestamp
    omega
  have positive : ∀ {n : Nat}, 1 ≤ n → n < 2 ^ 64 → UInt64.ofNat n ≠ 0 := by
    intro n low word zero
    have := congrArg UInt64.toNat zero
    rw [toNat_ofNat word] at this
    simp only [UInt64.toNat_zero] at this
    omega
  have total' : truth.params.get? (text "count") = some (.nat truth.eventTotal) := by simp [GeneratedEventTruth.params]
  have seed' : truth.params.get? (text "seed") = some (.nat truth.seed) := by simp [GeneratedEventTruth.params]
  have sequence' : truth.params.get? (text "start_sequence") = some (.nat truth.startSequence) := by
    simp [GeneratedEventTruth.params]
  have time' : truth.params.get? (text "timestamp_base_ms") = some (.nat truth.timestampBaseMs) := by
    simp [GeneratedEventTruth.params]
  have span' : truth.params.get? (text "point_span") = some (.nat truth.pointSpan) := by
    simp [GeneratedEventTruth.params]
  have interval' : truth.params.get? (text "interval_us") = some (.nat truth.intervalUs) := by
    simp [GeneratedEventTruth.params]
  have timed : (truth.params.get? (text "timestamp_base_ms")).bind Native.LocalOutstation.timestamp =
      some (.ofNat truth.timestampBaseMs) := bind_unsignedValue time' (by decide) time
  rw [Generator.readNumbers, bind_unsignedValue total' (by decide) total,
    bind_unsignedValue seed' (by decide) (by omega), bind_unsignedValue sequence' (by decide) (by omega), timed,
    bind_unsignedValue span' (by omega) (by omega), bind_unsignedValue interval' (by decide) interval]
  unfold Native.LocalOutstation.kMaximumGeneratedEvents at total
  have nonzero : ¬ (UInt64.ofNat truth.eventTotal = 0 ∨ UInt64.ofNat truth.pointSpan = 0) :=
    not_or.mpr ⟨positive count.1 (by omega), positive span.1 (by omega)⟩
  simp only [Option.bind_eq_bind, Option.bind_some]
  rw [if_neg nonzero]
  rfl

/-- An accepted plan overflows nothing. -/
theorem overflows_eq (limits : truth.Accepted pointCount) (database : pointCount ≤ 65535) :
    truth.native.overflows = false := by
  obtain ⟨count', seed', sequence', timestamp', span', interval'⟩ := native_toNat limits database
  obtain ⟨count, seed, sequence, span, timestamp, duration⟩ := limits
  unfold Python.maxGeneratedEvents at count
  unfold Python.maxGeneratedDurationUs at duration
  have one : (1 : UInt64) ≤ truth.native.count := by
    rw [UInt64.le_iff_toNat_le, count']
    exact count.1
  have offset : (truth.native.count - 1).toNat = truth.eventTotal - 1 := by
    rw [UInt64.toNat_sub_of_le _ _ one, count']
    rfl
  have bound : ∀ {n : Nat}, n < 2 ^ 64 → truth.eventTotal ≤ n →
      (UInt64.ofNat n - (truth.native.count - 1)).toNat = n - (truth.eventTotal - 1) := by
    intro n word room
    rw [UInt64.toNat_sub_of_le, toNat_ofNat word, offset]
    rw [UInt64.le_iff_toNat_le, offset, toNat_ofNat word]
    omega
  have sequences : ¬ UInt64.ofNat (2 ^ 63 - 1) - (truth.native.count - 1) < truth.native.startSequence := by
    rw [UInt64.lt_iff_toNat_lt, bound (by decide) (by omega), sequence']
    omega
  have timestamps : ¬ UInt64.ofNat Native.LocalOutstation.kMaximumDnp3Timestamp - (truth.native.count - 1) <
      truth.native.timestampBase := by
    unfold Native.LocalOutstation.kMaximumDnp3Timestamp
    rw [UInt64.lt_iff_toNat_lt, bound (by decide) (by omega), timestamp']
    omega
  have durations : truth.native.intervalUs ≠ 0 →
      ¬ UInt64.ofNat Native.LocalOutstation.kMaximumGeneratedDurationUs / truth.native.intervalUs <
        truth.native.count := by
    intro paced
    have positive : 0 < truth.intervalUs := by
      rw [← interval']
      exact Nat.pos_of_ne_zero fun zero => paced (UInt64.toNat_inj.mp zero)
    rw [UInt64.lt_iff_toNat_lt, UInt64.toNat_div, toNat_ofNat (by decide), interval', count', not_lt,
      Nat.le_div_iff_mul_le positive]
    exact duration
  simp only [Generator.overflows, Bool.or_eq_false_iff, Bool.and_eq_false_iff, decide_eq_false_iff_not, not_not]
  exact ⟨⟨sequences, timestamps⟩, or_iff_not_imp_left.mpr durations⟩

/-- Every turn of the loop emits the planned record. -/
theorem onWire_event (limits : truth.Accepted pointCount) (database : pointCount ≤ 65535) {offset : Nat}
    (inside : offset < truth.eventTotal) : onWire (truth.native.event (.ofNat offset)) =
      Python.generatedRecord truth.pointType truth.seed truth.pointSpan (truth.startSequence + offset) := by
  obtain ⟨count', seed', sequence', timestamp', span', interval'⟩ := native_toNat limits database
  obtain ⟨count, seed, sequence, span, timestamp, duration⟩ := limits
  unfold Python.maxGeneratedEvents at count
  have offset' : (UInt64.ofNat offset).toNat = offset := toNat_ofNat (by omega)
  have next : (truth.native.startSequence + .ofNat offset).toNat = truth.startSequence + offset := by
    rw [toNat_add (by omega), sequence', offset']
  have index :
      ((truth.native.seed + (truth.native.startSequence + .ofNat offset)) % truth.native.pointSpan).toUInt16.toNat =
        (truth.seed + (truth.startSequence + offset)) % truth.pointSpan := by
    have small := Nat.mod_lt (truth.seed + (truth.startSequence + offset)) span.1
    rw [UInt64.toNat_toUInt16, UInt64.toNat_mod, toNat_add (by omega), next, seed', span', Nat.mod_eq_of_lt (by omega)]
  unfold onWire Generator.event Python.generatedRecord
  cases kind : truth.pointType with
  | binaryInput =>
    have analog : truth.native.analog = false := congrArg GeneratedType.isAnalog kind
    have parity : ((truth.native.seed ^^^ (truth.native.startSequence + .ofNat offset)) &&& 1 != 0) =
        ((truth.seed ^^^ (truth.startSequence + offset)) &&& 1 != 0) := by
      rw [Bool.eq_iff_iff, bne_iff_ne, bne_iff_ne, ← UInt64.toNat_inj.ne, UInt64.toNat_and, UInt64.toNat_xor, next,
        seed']
      rfl
    simp only [analog, Bool.false_eq_true, if_false, index, parity]
  | analogInput =>
    have analog : truth.native.analog = true := congrArg GeneratedType.isAnalog kind
    simp only [analog, if_true, index]
    rw [Python.analogValue, UInt64.toNat_mod, UInt64.toNat_mod, next, seed']
    rfl

/-- No sum of the loop wraps around. -/
theorem sums_exact (limits : truth.Accepted pointCount) (database : pointCount ≤ 65535) {offset : Nat}
    (inside : offset < truth.eventTotal) :
    (truth.native.seed + (truth.native.startSequence + .ofNat offset)).toNat =
        truth.seed + (truth.startSequence + offset) ∧
      (truth.native.timestampBase + .ofNat offset).toNat = truth.timestampBaseMs + offset := by
  obtain ⟨count', seed', sequence', timestamp', span', interval'⟩ := native_toNat limits database
  obtain ⟨count, seed, sequence, span, timestamp, duration⟩ := limits
  have offset' : (UInt64.ofNat offset).toNat = offset := toNat_ofNat (by omega)
  have next : (truth.native.startSequence + .ofNat offset).toNat = truth.startSequence + offset := by
    rw [toNat_add (by omega), sequence', offset']
  exact ⟨by rw [toNat_add (by omega), next, seed'], by rw [toNat_add (by omega), timestamp', offset']⟩

/-- The result of the outstation is the one that the client insists on. -/
theorem result_eq (limits : truth.Accepted pointCount) (database : pointCount ≤ 65535) :
    truth.native.result = truth.expected := by
  obtain ⟨count', seed', sequence', timestamp', span', interval'⟩ := native_toNat limits database
  obtain ⟨count, seed, sequence, span, timestamp, duration⟩ := limits
  have one : (1 : UInt64) ≤ truth.native.count := by
    rw [UInt64.le_iff_toNat_le, count']
    exact count.1
  have offset : (truth.native.count - 1).toNat = truth.eventTotal - 1 := by
    rw [UInt64.toNat_sub_of_le _ _ one, count']
    rfl
  have last : (truth.native.startSequence + (truth.native.count - 1)).toNat = truth.endSequence := by
    rw [toNat_add (by omega), sequence', offset, GeneratedEventTruth.endSequence]
    omega
  have name : truth.native.typeName = truth.pointType.name := by
    have analog : truth.native.analog = truth.pointType.isAnalog := rfl
    rw [Generator.typeName, analog]
    cases truth.pointType <;> rfl
  rw [Generator.result, GeneratedEventTruth.expected, count', seed', sequence', last, timestamp', span', interval',
    name]

/-- The request of an accepted plan is read. -/
theorem read_ok {request : Native.Request} (sent : request.params = truth.params) (limits : truth.Accepted pointCount)
    (set : IterationOrder generatorFields) (options : Options) (same : options.pointCount = pointCount) :
    Generator.read set options request = .ok truth.native := by
  have database : pointCount ≤ 65535 := same ▸ options.pointCountOk.2
  rw [Generator.read, requireFields_ok sent, ok_bind, readType_ok sent, ok_bind, sent,
    readNumbers_ok limits options same]
  exact congrArg (fun check => check >>= fun _ => Except.ok truth.native)
    (rejectIf_pass (overflows_eq limits database))

end

/-- A planned stream is emitted as planned. -/
theorem emits_plan (digest : List GeneratedRecord → Text) (now : Nat) (options : Options)
    (set : IterationOrder generatorFields) (request : Python.EventRequest) (truth : GeneratedEventTruth)
    (planned : Python.planEvents digest options.pointCount now request = .ok truth) (id command : Text) :
    ∃ batches, Native.LocalOutstation.generateEvents set options ⟨id, command, truth.params⟩ =
        (Native.successResponse id truth.expected, batches) ∧
      batches.flatten.map onWire = truth.records ∧ truth.recordsSha256 = digest truth.records ∧
      ∀ offset < truth.eventTotal,
        (truth.native.seed + (truth.native.startSequence + .ofNat offset)).toNat =
            truth.seed + (truth.startSequence + offset) ∧
          (truth.native.timestampBase + .ofNat offset).toNat = truth.timestampBaseMs + offset := by
  obtain ⟨limits, hashed⟩ := Python.planEvents_ok planned
  have database := options.pointCountOk.2
  obtain ⟨going, stream⟩ := truth.native.emit_spec
  refine ⟨truth.native.emit.applied, ?_, ?_, hashed, fun offset inside => sums_exact limits database inside⟩
  · generalize sent : (⟨id, command, truth.params⟩ : Native.Request) = sentRequest
    have params : sentRequest.params = truth.params := by rw [← sent]
    have named : sentRequest.id = id := by rw [← sent]
    rw [Native.LocalOutstation.generateEvents, read_ok params limits set options rfl]
    simp only [going, result_eq limits database, named]
  · rw [stream, (native_toNat limits database).1, List.map_map]
    exact List.map_congr_left fun offset inside => onWire_event limits database (List.mem_range.mp inside)

/-- **Generator agreement.** Every accepted plan is emitted as planned, and the iterations of a load are
accepted plans of ranges that follow one another. -/
theorem generator_agreement (digest : List GeneratedRecord → Text) (now : Nat) (options : Options)
    (set : IterationOrder generatorFields) :
    (∀ request truth, Python.planEvents digest options.pointCount now request = .ok truth → ∀ id command,
      ∃ batches, Native.LocalOutstation.generateEvents set options ⟨id, command, truth.params⟩ =
          (Native.successResponse id truth.expected, batches) ∧
        batches.flatten.map onWire = truth.records ∧ truth.recordsSha256 = digest truth.records ∧
        ∀ offset < truth.eventTotal,
          (truth.native.seed + (truth.native.startSequence + .ofNat offset)).toNat =
              truth.seed + (truth.startSequence + offset) ∧
            (truth.native.timestampBase + .ofNat offset).toNat = truth.timestampBaseMs + offset) ∧
      ∀ load : Python.LocalEventLoad, load.pointSpan ≤ options.pointCount →
        (∀ iteration < load.iterations, Python.planEvents digest options.pointCount now (load.request iteration) =
          .ok (load.plan digest iteration)) ∧
        (load.plan digest 0).startSequence = load.startSequence ∧
        (∀ iteration, (load.plan digest (iteration + 1)).startSequence =
          (load.plan digest iteration).endSequence + 1) ∧
        ∀ earlier later, earlier < later →
          (load.plan digest earlier).endSequence < (load.plan digest later).startSequence := by
  refine ⟨fun request truth planned id command =>
    emits_plan digest now options set request truth planned id command, fun load database => ⟨?_, ?_, ?_, ?_⟩⟩
  · intro iteration inside
    exact load.planEvents_plan digest now inside database
  · show load.startSequence + 0 * load.eventCount = load.startSequence
    omega
  · exact load.plan_contiguous digest
  · intro earlier later before
    exact load.plan_disjoint digest before

/-- Two iterations of three events on two points, up to the last sequence number. -/
def exampleLoad : Python.LocalEventLoad where
  scenarioId := "burst"
  pointType := .binaryInput
  eventCount := 3
  iterations := 2
  seed := 2 ^ 63 - 1
  startSequence := 2 ^ 63 - 6
  timestampBaseMs := 1700000000000
  pointSpan := 2
  intervalUs := 0
  token := by decide +kernel
  eventCountOk := by decide
  iterationsOk := by decide
  seedOk := by decide
  startSequenceOk := by decide
  timestampOk := by decide
  pointSpanOk := by decide
  intervalOk := by decide
  sequences := by decide
  timestamps := by decide
  emission := by simp [Python.emissionSeconds, binary64, roundBits]
  queue := by decide

/-- The first iteration of the example load. -/
theorem generator_agreement_example :
    ∃ batches, (Native.LocalOutstation.generateEvents ⟨generatorFields, .refl _⟩ ⟨2, by decide⟩
        ⟨"local-1", "generate_events", (exampleLoad.plan (fun _ => []) 1).params⟩).2 = batches ∧
      batches.flatten.map onWire = (exampleLoad.plan (fun _ => []) 1).records := by
  have agreement := generator_agreement (fun _ => []) 0 ⟨2, by decide⟩ ⟨generatorFields, .refl _⟩
  obtain ⟨planned, -⟩ := agreement.2 exampleLoad (by decide)
  obtain ⟨batches, emitted, same, -⟩ := agreement.1 _ _ (planned 1 (by decide)) "local-1" "generate_events"
  exact ⟨batches, congrArg Prod.snd emitted, same⟩

end GeneratorAgreement

end EmsDnp3
